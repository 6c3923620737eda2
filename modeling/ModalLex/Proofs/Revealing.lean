import ModalLex.Proofs.InOrder
import ModalLex.Proofs.Runs

/-!
# Skipped pieces revealed

A second lexer reveals what the first one skips if it differs only in keeping more, and in the kinds
of what the first one skips. The two take the same steps, so they find pieces at the same places
and end in the same way, and the tokens of the first are those of the second without the ones that
the first skips (`drain_of_revealedBy`).
-/

namespace ModalLex

/-- The second verdict differs from the first at most in keeping a text that the first one skips,
and in the kind of such a text. -/
structure Verdict.RevealedBy (v w : Verdict) : Prop where
  next : v.next = w.next
  isSome_kind : v.kind.isSome = w.kind.isSome
  kind : v.keep → v.kind = w.kind
  keep : v.keep → w.keep

structure Rule.RevealedBy (r q : Rule) : Prop where
  pattern : r.pattern = q.pattern
  classify : ∀ text, (r.classify text).RevealedBy (q.classify text)

structure Context.RevealedBy (c d : Context) : Prop where
  message : c.message = d.message
  flags : c.flags = d.flags
  rules : List.Forall₂ Rule.RevealedBy c.rules d.rules

namespace Lexer

/-- The second lexer has the contexts of the first in the same order, and reveals what the first
one skips in each of them. -/
def RevealedBy (l k : Lexer) : Prop :=
  List.Forall₂ (fun x y => x.1 = y.1 ∧ x.2.RevealedBy y.2) l.contexts k.contexts

end Lexer

/-- Two matches of the same text. -/
structure Match.RevealedBy (m n : Match) : Prop where
  text : m.text = n.text
  verdict : Verdict.RevealedBy ⟨m.kind, m.next, m.keep⟩ ⟨n.kind, n.next, n.keep⟩

/-- Two tokens at the same place. -/
structure Token.RevealedBy (t u : Token) : Prop where
  text : t.text = u.text
  position : t.position = u.position
  resume : t.resume = u.resume
  kind : t.keep → t.kind = u.kind
  keep : t.keep → u.keep

/-! ## Lists of related things -/

theorem rel_lookup_of_forall₂ {α β γ : Type} [BEq α] [LawfulBEq α] {R : β → γ → Prop} (k : α) :
    ∀ {xs : List (α × β)} {ys : List (α × γ)},
      List.Forall₂ (fun x y => x.1 = y.1 ∧ R x.2 y.2) xs ys →
      Option.Rel R (xs.lookup k) (ys.lookup k)
  | [], [], .nil => .none
  | (a, b) :: xs, (a', b') :: ys, .cons ⟨hkey, hb⟩ hxs => by
    obtain rfl : a = a' := hkey
    simp only [List.lookup_cons]
    split
    · exact .some hb
    · exact rel_lookup_of_forall₂ k hxs

theorem patterns_eq_of_forall₂ {rules rules' : List Rule}
    (h : List.Forall₂ Rule.RevealedBy rules rules') :
    rules.map (·.pattern) = rules'.map (·.pattern) := by
  induction h with
  | nil => rfl
  | cons hr _ ih => rw [List.map_cons, List.map_cons, hr.pattern, ih]

/-! ## The same steps -/

namespace Context

variable [Pattern.Engine] {c d : Context}

theorem RevealedBy.node_eq (hc : c.Built) (hd : d.Built) (h : c.RevealedBy d) :
    c.node = d.node := by
  obtain ⟨-, -, -, hc, -⟩ := of_ofRules hc
  obtain ⟨-, -, -, hd, -⟩ := of_ofRules hd
  rw [h.flags, patterns_eq_of_forall₂ h.rules, hd] at hc
  exact (Except.ok.inj hc).symm

/-- The same rule is found, with the same part of the text. -/
theorem RevealedBy.ruleAt? (hc : c.Built) (hd : d.Built) (h : c.RevealedBy d)
    (before : Option Char) (text : List Char) :
    Option.Rel (fun x y => x.1.RevealedBy y.1 ∧ x.2 = y.2) (c.ruleAt? before text)
      (d.ruleAt? before text) := by
  have hnode := h.node_eq hc hd
  have hcode : c.code = d.code := by rw [c.code_eq, d.code_eq, hnode]
  unfold Context.ruleAt? groups
  rw [hcode, hnode]
  rcases d.code.search before text with _ | marks
  · exact .none
  · simp only [Option.bind_eq_bind, Option.bind_some]
    rcases marks.firstCaptured? d.node.lastCapture text with _ | ⟨number, part⟩
    · exact .none
    · have hrule := rel_getElem?_of_forall₂ h.rules (number - 1)
      simp only [Option.bind_some]
      generalize c.rules[number - 1]? = x at hrule ⊢
      generalize d.rules[number - 1]? = y at hrule ⊢
      cases hrule with
      | none => exact .none
      | some hr => exact .some ⟨hr, rfl⟩

/-- At a spot both contexts have the same error or a match of the same text. -/
theorem RevealedBy.matchSpot (hc : c.Built) (hd : d.Built) (h : c.RevealedBy d)
    (spot : Text.Spot) (offset row column : Nat) :
    (∃ e, c.matchSpot spot offset row column = .error e ∧
        d.matchSpot spot offset row column = .error e) ∨
      ∃ m n, c.matchSpot spot offset row column = .ok m ∧
        d.matchSpot spot offset row column = .ok n ∧ m.RevealedBy n := by
  rcases spot with index | _ | ⟨index, before, char, rest⟩
  · exact .inl ⟨_, rfl, rfl⟩
  · exact .inl ⟨_, rfl, rfl⟩
  · have hrule := h.ruleAt? hc hd before (char :: rest)
    simp only [Context.matchSpot]
    generalize c.ruleAt? before (char :: rest) = x at hrule ⊢
    generalize d.ruleAt? before (char :: rest) = y at hrule ⊢
    cases hrule with
    | none => exact .inl ⟨_, by rw [h.message], rfl⟩
    | @some x y hxy =>
      obtain ⟨r, part⟩ := x
      obtain ⟨q, part'⟩ := y
      obtain ⟨hr, rfl⟩ : r.RevealedBy q ∧ part = part' := hxy
      cases part with
      | nil => exact .inl ⟨_, by simp only [hr.pattern], rfl⟩
      | cons x part => exact .inr ⟨_, _, rfl, rfl, rfl, hr.classify _⟩

end Context

namespace Lexer

variable {l k : Lexer}

theorem RevealedBy.context? (h : l.RevealedBy k) (id : ContextId) :
    Option.Rel Context.RevealedBy (l.context? id) (k.context? id) :=
  rel_lookup_of_forall₂ id h

theorem RevealedBy.initialState (h : l.RevealedBy k) : l.initialState = k.initialState := by
  obtain ⟨_ | ⟨x, xs⟩, hne, _⟩ := l
  · exact absurd rfl hne
  obtain ⟨_ | ⟨y, ys⟩, hne, _⟩ := k
  · exact absurd rfl hne
  · obtain ⟨⟨hid, -⟩, -⟩ := List.forall₂_cons.1 h
    exact congrArg ScanState.start hid

theorem RevealedBy.context?_eq_none_iff (h : l.RevealedBy k) (id : ContextId) :
    l.context? id = none ↔ k.context? id = none := by
  have hrel := h.context? id
  generalize l.context? id = x at hrel ⊢
  generalize k.context? id = y at hrel ⊢
  cases hrel <;> simp

/-- The token of a revealed match is at the same place. -/
theorem tokenOf_revealedBy (s : ScanState) {m n : Match} (h : m.RevealedBy n) {kind kind' : String}
    (hm : m.kind = some kind) (hn : n.kind = some kind') :
    (tokenOf s m kind).RevealedBy (tokenOf s n kind') := by
  obtain ⟨htext, hnext, -, hkind, hkeep⟩ := h
  simp only at hnext hkind hkeep
  constructor
  case kind =>
    intro hk
    exact Option.some.inj (hm.symm.trans ((hkind hk).trans hn))
  case keep => exact hkeep
  all_goals simp only [tokenOf, htext, hnext]

theorem RevealedBy.stepOfMatch (h : l.RevealedBy k) {c d : Context}
    (hmessage : c.message = d.message) (s : ScanState) {m n : Match} (hm : m.RevealedBy n) :
    (l.stepOfMatch c s m).Rel Token.RevealedBy Eq (k.stepOfMatch d s n) := by
  have hnext : m.next = n.next := hm.verdict.next
  have hsome : m.kind.isSome = n.kind.isSome := hm.verdict.isSome_kind
  unfold Lexer.stepOfMatch
  simp only [h.context?_eq_none_iff, hnext]
  split
  · exact .failed rfl
  · rcases hk : m.kind with _ | kind <;> rcases hk' : n.kind with _ | kind' <;>
      rw [hk, hk'] at hsome
    · exact .failed (by rw [hmessage, hm.text])
    · cases hsome
    · cases hsome
    · exact .piece (tokenOf_revealedBy s hm hk hk')

/-! ## What is kept -/

theorem eq_of_keep {t u : Token} (h : t.RevealedBy u) (hk : t.keep = true) : t = u := by
  obtain ⟨htext, hposition, hresume, hkind, hkeep⟩ := h
  have hkind := hkind hk
  have hkeep := hk.trans (hkeep hk).symm
  cases t
  cases u
  simp_all

/-- Where two lexers reveal each other's skipped pieces, they keep the same. -/
theorem filter_keep_eq {ts us : List Token} (h : List.Forall₂ Token.RevealedBy ts us)
    (h' : List.Forall₂ Token.RevealedBy us ts) : ts.filter (·.keep) = us.filter (·.keep) := by
  induction h with
  | nil => rfl
  | @cons t u ts us htu _ ih =>
    obtain ⟨hut, hrest⟩ := List.forall₂_cons.1 h'
    by_cases hk : t.keep
    · obtain rfl := eq_of_keep htu hk
      rw [List.filter_cons_of_pos hk, List.filter_cons_of_pos hk, ih hrest]
    · have hku : ¬ u.keep = true := fun hku => hk (hut.keep hku)
      rw [List.filter_cons_of_neg hk, List.filter_cons_of_neg hku, ih hrest]

/-- What the first lexer keeps of its pieces is what it keeps of those that the second one keeps. -/
theorem filter_keep_map_fst {both : List (Token × Token)}
    (h : ∀ x ∈ both, x.1.RevealedBy x.2) :
    (both.map (·.1)).filter (·.keep)
      = ((both.filter (·.2.keep)).filter (·.1.keep)).map (·.2) := by
  rw [List.filter_map, List.filter_filter]
  have hfilter : both.filter ((·.keep) ∘ (·.1)) = both.filter fun x => x.1.keep && x.2.keep := by
    refine List.filter_congr fun x hx => ?_
    have := (h x hx).keep
    cases hk : x.1.keep <;> simp_all
  rw [hfilter]
  refine List.map_congr_left fun x hx => ?_
  obtain ⟨hx, hk⟩ := List.mem_filter.1 hx
  exact eq_of_keep (h x hx) (Bool.and_eq_true_iff.1 hk).1

theorem drain_tokens (l : Lexer) (input : List Char) :
    l.tokens.drain l input = (l.pieces input l.initialState).kept.items := by
  rw [← run_eq_kept]
  exact drain_eq_items _

section Reading

variable [Pattern.Engine]

/-- The two lexers take the same steps. -/
theorem RevealedBy.step (hl : l.Built) (hk : k.Built) (h : l.RevealedBy k) (input : List Char)
    (s : ScanState) : (l.step input s).Rel Token.RevealedBy Eq (k.step input s) := by
  have hcontext := h.context? s.context
  unfold Lexer.step
  split
  · exact .ended
  · rcases hc : l.context? s.context with _ | c <;>
      rcases hd : k.context? s.context with _ | d <;> rw [hc, hd] at hcontext
    · exact .failed rfl
    · cases hcontext
    · cases hcontext
    · cases hcontext with
      | some hcd =>
        rcases hcd.matchSpot (hl _ (mem_of_context? hc)) (hk _ (mem_of_context? hd))
          (Text.seek s.offset input) s.offset s.row s.column with
          ⟨e, hce, hde⟩ | ⟨m, n, hcm, hdn, hmn⟩
        · simp only [hce, hde]
          exact .failed rfl
        · simp only [hcm, hdn]
          exact h.stepOfMatch hcd.message s hmn

/-- Of two lexers the second one of which reveals what the first one skips, the first one yields the
tokens of the second without those whose match it skips, and ends in the same way. If each reveals
what the other one skips, they yield the same: the kind of a skipped match is not seen. -/
theorem drain_of_revealedBy (hl : l.Built) (hk : k.Built) (h : l.RevealedBy k)
    (input : List Char) :
    (∃ (both : List (Token × Token)) (error : Option Error),
      l.pieces input l.initialState = ⟨both.map (·.1), error⟩ ∧
      k.pieces input k.initialState = ⟨both.map (·.2), error⟩ ∧
      (∀ x ∈ both, x.1.text = x.2.text ∧ x.1.position = x.2.position) ∧
      k.tokens.drain k input = Run.items ⟨(both.filter (·.2.keep)).map (·.2), error⟩ ∧
      l.tokens.drain l input
        = Run.items ⟨((both.filter (·.2.keep)).filter (·.1.keep)).map (·.2), error⟩) ∧
    (k.RevealedBy l → l.tokens.drain l input = k.tokens.drain k input) := by
  have hpieces : ∀ {l k : Lexer}, l.Built → k.Built → l.RevealedBy k →
      (l.pieces input l.initialState).Rel Token.RevealedBy Eq (k.pieces input k.initialState) :=
    fun hl hk h => pieces_rel (fun s _ hs => hs ▸ h.step hl hk input s) (fun _ _ ht => ht.resume)
      h.initialState
  have hrel := hpieces hl hk h
  have hback := fun h' : k.RevealedBy l => hpieces hk hl h'
  rw [drain_tokens, drain_tokens]
  generalize l.pieces input l.initialState = r at hrel hback ⊢
  generalize k.pieces input k.initialState = q at hrel hback ⊢
  obtain ⟨ts, error⟩ := r
  obtain ⟨us, error'⟩ := q
  obtain ⟨htokens, herror⟩ := hrel
  obtain rfl : error = error' := by
    cases herror with
    | none => rfl
    | some h => rw [h]
  obtain ⟨hlength, hzip⟩ := List.forall₂_iff_zip.1 htokens
  have hrevealed : ∀ x ∈ ts.zip us, x.1.RevealedBy x.2 := fun x hx => hzip hx
  have hts : (ts.zip us).map (·.1) = ts := List.map_fst_zip hlength.le
  have hus : (ts.zip us).map (·.2) = us := List.map_snd_zip hlength.ge
  refine ⟨⟨ts.zip us, error, by rw [hts], by rw [hus], fun x hx => ?_, ?_, ?_⟩, fun h' => ?_⟩
  · exact ⟨(hrevealed x hx).text, (hrevealed x hx).position⟩
  · rw [← Function.comp_def Token.keep, ← List.filter_map, hus]
    rfl
  · rw [← filter_keep_map_fst hrevealed, hts]
    rfl
  · rw [Run.kept, Run.kept, filter_keep_eq htokens (hback h').tokens]

end Reading

open scoped Unicode

/-- Words, and notes between brackets, of which only the shorter one is kept. -/
def quietLexer : Lexer where
  contexts :=
    [(.name "text",
      { message := "no word"
        flags := {}
        rules := [.token "a" "word" (.name "text"), .skip "<" (.name "note")]
        node := .grouped [.literal ['a'], .literal ['<'], .anyChar] }),
    (.name "note",
      { message := "no note"
        flags := {}
        rules := [.skip ">" (.name "text"),
          ⟨"c|bc", fun text => ⟨some "note", .name "note", text = "c"⟩⟩]
        node := .grouped [.literal ['>'], .alt (.literal ['c']) (.literal ['b', 'c']), .anyChar] })]
  contexts_ne_nil := by simp
  ids_nodup := by simp

/-- The same with all pieces kept. -/
def loudLexer : Lexer where
  contexts :=
    [(.name "text",
      { message := "no word"
        flags := {}
        rules := [.token "a" "word" (.name "text"), .token "<" "bracket" (.name "note")]
        node := .grouped [.literal ['a'], .literal ['<'], .anyChar] }),
    (.name "note",
      { message := "no note"
        flags := {}
        rules := [.token ">" "bracket" (.name "text"), .token "c|bc" "note" (.name "note")]
        node := .grouped [.literal ['>'], .alt (.literal ['c']) (.literal ['b', 'c']), .anyChar] })]
  contexts_ne_nil := by simp
  ids_nodup := by simp

theorem revealedBy_loudLexer : quietLexer.RevealedBy loudLexer := by
  refine .cons ⟨rfl, rfl, rfl, .cons ⟨rfl, fun _ => ?_⟩ (.cons ⟨rfl, fun _ => ?_⟩ .nil)⟩
    (.cons ⟨rfl, rfl, rfl, .cons ⟨rfl, fun _ => ?_⟩ (.cons ⟨rfl, fun _ => ?_⟩ .nil)⟩ .nil)
  · exact ⟨rfl, rfl, fun _ => rfl, fun _ => rfl⟩
  · exact ⟨rfl, rfl, nofun, nofun⟩
  · exact ⟨rfl, rfl, nofun, nofun⟩
  · exact ⟨rfl, rfl, fun _ => rfl, fun _ => rfl⟩

/-- The bracket that the first lexer skips is a token of the second. -/
theorem drain_quietLexer :
    let bracket : Token :=
      ⟨"bracket", "<", ⟨0, 0, 1, 1, 1, 2⟩, true, ⟨.name "note", 1, 1, 1, 2⟩⟩
    let note : Token :=
      ⟨"note", "c", ⟨1, 1, 1, 2, 1, 3⟩, true, ⟨.name "note", 2, 2, 1, 3⟩⟩
    quietLexer.Built ∧ loudLexer.Built ∧ quietLexer.RevealedBy loudLexer ∧
      loudLexer.tokens.drain loudLexer ['<', 'c'] = [.ok bracket, .ok note] ∧
      quietLexer.tokens.drain quietLexer ['<', 'c'] = [.ok note] := by
  intro bracket note
  have hquiet : quietLexer.Built := by
    refine List.forall_mem_cons.2 ⟨?_, List.forall_mem_singleton.2 ?_⟩ <;> rfl
  have hloud : loudLexer.Built := by
    refine List.forall_mem_cons.2 ⟨?_, List.forall_mem_singleton.2 ?_⟩ <;> rfl
  have hpieces : quietLexer.pieces ['<', 'c'] quietLexer.initialState
      = ⟨[{ bracket with kind := "", keep := false }, note], none⟩ := by
    rw [pieces_eq, show quietLexer.step _ quietLexer.initialState
      = .piece { bracket with kind := "", keep := false } from rfl]
    change Run.cons _ (quietLexer.pieces _ bracket.resume) = _
    rw [pieces_eq, show quietLexer.step _ bracket.resume = .piece note from rfl]
    change Run.cons _ (Run.cons _ (quietLexer.pieces _ note.resume)) = _
    rw [pieces_eq, show quietLexer.step _ note.resume = .ended from rfl]
    rfl
  have hpieces' : loudLexer.pieces ['<', 'c'] loudLexer.initialState
      = ⟨[bracket, note], none⟩ := by
    rw [pieces_eq, show loudLexer.step _ loudLexer.initialState = .piece bracket from rfl]
    change Run.cons _ (loudLexer.pieces _ bracket.resume) = _
    rw [pieces_eq, show loudLexer.step _ bracket.resume = .piece note from rfl]
    change Run.cons _ (Run.cons _ (loudLexer.pieces _ note.resume)) = _
    rw [pieces_eq, show loudLexer.step _ note.resume = .ended from rfl]
    rfl
  obtain ⟨⟨both, error, hfst, hsnd, -, hdrain', hdrain⟩, -⟩ :=
    drain_of_revealedBy hquiet hloud revealedBy_loudLexer ['<', 'c']
  obtain ⟨hquieter, rfl⟩ := Run.mk.inj (hpieces.symm.trans hfst)
  obtain ⟨hlouder, -⟩ := Run.mk.inj (hpieces'.symm.trans hsnd)
  rw [List.zip_of_prod hquieter.symm hlouder.symm] at hdrain hdrain'
  exact ⟨hquiet, hloud, revealedBy_loudLexer, hdrain', hdrain⟩

end Lexer

end ModalLex
