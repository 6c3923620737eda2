import ModalLex.Context
import ModalLex.ScanState

/-!
# Lexers

A lexer is a table of contexts, each under an id of its own. A scan starts in the first one.
-/

namespace ModalLex

structure Lexer where
  contexts : List (ContextId × Context)
  contexts_ne_nil : contexts ≠ []
  ids_nodup : (contexts.map (·.1)).Nodup

namespace Lexer

/-- The error of an id that is in the table already. -/
def duplicateContext (id : ContextId) : Error := ⟨.duplicateContext id.written, none⟩

/-- The table after further contexts are entered, one after the other. An id that is in the table
already is an error. -/
def enterAll (table : List (ContextId × Context)) :
    List (ContextId × Context) → Except Error (List (ContextId × Context))
  | [] => .ok table
  | (id, c) :: rest =>
    if id ∈ table.map (·.1) then .error (duplicateContext id)
    else enterAll (table ++ [(id, c)]) rest

theorem nodup_concat {table : List (ContextId × Context)} {id : ContextId} {c : Context}
    (htable : (table.map (·.1)).Nodup) (hid : id ∉ table.map (·.1)) :
    ((table ++ [(id, c)]).map (·.1)).Nodup := by
  rw [List.map_append, List.nodup_append]
  refine ⟨htable, by simp, fun a ha b hb => ?_⟩
  obtain rfl := List.mem_singleton.1 hb
  exact fun hab => hid (hab ▸ ha)

theorem nodup_of_enterAll {table contexts entered : List (ContextId × Context)}
    (h : enterAll table contexts = .ok entered) (htable : (table.map (·.1)).Nodup) :
    (entered.map (·.1)).Nodup := by
  fun_induction enterAll table contexts with
  | case1 => cases h; exact htable
  | case2 => cases h
  | case3 table id c rest hid ih => exact ih h (nodup_concat htable hid)

/-- The lexer of a list of contexts. Once they are entered, the first one is looked for. -/
def ofContexts : List (ContextId × Context) → Except Error Lexer
  | [] => .error ⟨.noContexts, none⟩
  | (first, c) :: rest =>
    match h : enterAll [] ((first, c) :: rest) with
    | .error e => .error e
    | .ok table =>
      if hfirst : first ∈ table.map (·.1) then
        .ok ⟨table, fun hnil => by simp [hnil] at hfirst, nodup_of_enterAll h .nil⟩
      else .error ⟨.unknownContext first.written, none⟩

/-- The id of the first context. -/
def initial (l : Lexer) : ContextId := (l.contexts.head l.contexts_ne_nil).1

def context? (l : Lexer) (id : ContextId) : Option Context := l.contexts.lookup id

/-- The state at the start of an input, in the first context. -/
def initialState (l : Lexer) : ScanState := .start l.initial

/-- Puts a state back into the first context; the place stays. -/
def reset (l : Lexer) (s : ScanState) : ScanState := { s with context := l.initial }

/-- Every context is built from its rules. -/
def Built [Pattern.Engine] (l : Lexer) : Prop := ∀ x ∈ l.contexts, x.2.Built

def written (l : Lexer) : String :=
  Text.record "Lexer"
    [("contexts", "\x7b" ++ ", ".intercalate
        (l.contexts.map fun (id, c) => id.written ++ ": " ++ c.written) ++ "\x7d"),
      ("initial", l.initial.written)]

end Lexer

end ModalLex
