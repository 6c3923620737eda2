import ModalLex.Proofs.Reaching

/-!
# Asking for matches

A scan asks a context for a match at most once at each state that it passes, and what is matched is
not empty. So the offsets at which contexts are asked ascend, from one call of an iterator to the
next as well, and stay below the end of the input, whatever the classifiers choose. That bounds the
items of an input and the calls that give one: by the bytes of the input, and in a well-grouped
lexer by its characters (`scans_and_drains_end`).
-/

namespace ModalLex

/-- The offsets ascend strictly, from `low` on and below `high`. -/
structure Ascends (low high : Nat) (offsets : List Nat) : Prop where
  pairwise : offsets.Pairwise (· < ·)
  within : ∀ o ∈ offsets, low ≤ o ∧ o < high

namespace Ascends

variable {low mid high : Nat} {xs ys : List Nat}

theorem nil : Ascends low high [] := ⟨.nil, by simp⟩

theorem singleton (h : low < high) : Ascends low high [low] := ⟨by simp, by simp [h]⟩

theorem append (hxs : Ascends low mid xs) (hys : Ascends mid high ys) (hle : low ≤ mid)
    (hxs' : ∀ o ∈ xs, o < high) : Ascends low high (xs ++ ys) where
  pairwise := List.pairwise_append.2 ⟨hxs.pairwise, hys.pairwise, fun o ho p hp =>
    Nat.lt_of_lt_of_le (hxs.within o ho).2 (hys.within p hp).1⟩
  within o ho := by
    rcases List.mem_append.1 ho with ho | ho
    · exact ⟨(hxs.within o ho).1, hxs' o ho⟩
    · exact ⟨hle.trans (hys.within o ho).1, (hys.within o ho).2⟩

theorem nodup (h : Ascends low high xs) : xs.Nodup := h.pairwise.imp Nat.ne_of_lt

theorem length_le (h : Ascends low high xs) : xs.length ≤ high := by
  have hsub : xs ⊆ List.range high := fun o ho => List.mem_range.2 (h.within o ho).2
  simpa using h.nodup.length_le_of_subset hsub

/-- Where the offsets are boundaries of a text, there are no more of them than characters. -/
theorem length_le_of_isBoundary {text : List Char} (h : Ascends low (Text.byteLength text) xs)
    (hxs : ∀ o ∈ xs, Text.IsBoundary o text) : xs.length ≤ text.length := by
  have hsub : xs ⊆ (List.range text.length).map fun i => Text.byteLength (text.take i) := by
    intro o ho
    obtain ⟨before, c, rest, rfl, rfl⟩ :=
      Text.lt_and_isBoundary_iff.1 ⟨(h.within o ho).2, hxs o ho⟩
    exact List.mem_map.2 ⟨before.length, by simp, by simp⟩
  simpa using h.nodup.length_le_of_subset hsub

end Ascends

/-! ## Asking -/

/-- What a context matches at a state, and the offset at which it is asked. -/
def Context.matchAsking (c : Context) (input : List Char) (s : ScanState) :
    Except Error Match × List Nat :=
  (c.matchAt input s.offset s.row s.column, [s.offset])

namespace Lexer

/-- What is found at a state, and the offsets at which a context is asked for it. -/
def stepAsking (l : Lexer) (input : List Char) (s : ScanState) : Step × List Nat :=
  if Text.byteLength input ≤ s.offset then (.ended, [])
  else
    match l.context? s.context with
    | none => (.failed (unknownContext s.context (.point s.index s.offset s.row s.column)), [])
    | some c =>
      match c.matchAsking input s with
      | (.error e, asked) => (.failed e, asked)
      | (.ok m, asked) => (l.stepOfMatch c s m, asked)

theorem stepAsking_fst (l : Lexer) (input : List Char) (s : ScanState) :
    (l.stepAsking input s).1 = l.step input s := by
  unfold stepAsking
  split_ifs with hle
  · exact (step_eq_ended_iff.2 hle).symm
  have hlt := Nat.lt_of_not_le hle
  rcases hc : l.context? s.context with _ | c
  · exact (step_of_context?_eq_none hlt hc).symm
  · rw [step_eq_of_lt hlt hc]
    simp only [Context.matchAsking]
    rcases c.matchAt input s.offset s.row s.column with e | m <;> rfl

/-- A scan, with the offsets at which contexts are asked on its way. -/
def scanAsking (l : Lexer) (input : List Char) (s : ScanState) :
    Except Error (Option Token) × List Nat :=
  match _h : l.stepAsking input s with
  | (.ended, asked) => (.ok none, asked)
  | (.failed e, asked) => (.error e, asked)
  | (.piece t, asked) =>
    if t.keep then (.ok (some t), asked)
    else
      let (found, more) := l.scanAsking input t.resume
      (found, asked ++ more)
termination_by Text.byteLength input - s.offset
decreasing_by
  have hstep := stepAsking_fst l input s
  rw [_h] at hstep
  have := offset_lt_of_step hstep.symm
  omega

end Lexer

namespace Tokens

/-- The next item and the iterator after it, with the offsets at which contexts are asked. -/
def nextAsking (l : Lexer) (input : List Char) (ts : Tokens) :
    (Option (Except Error Token) × Tokens) × List Nat :=
  match ts.state with
  | none => ((none, ⟨none⟩), [])
  | some s =>
    match l.scanAsking input s with
    | (.ok (some t), asked) => ((some (.ok t), ⟨some t.resume⟩), asked)
    | (.ok none, asked) => ((none, ⟨none⟩), asked)
    | (.error e, asked) => ((some (.error e), ⟨none⟩), asked)

/-- An iterator that gives no item has no state after it. -/
theorem snd_next_of_fst_eq_none {l : Lexer} {input : List Char} {ts : Tokens}
    (h : (ts.next l input).1 = none) : (ts.next l input).2 = ⟨none⟩ := by
  unfold next at h ⊢
  split at h
  · rfl
  · split at h
    · cases h
    · rfl
    · cases h

/-- The iterator after `n` calls. -/
def after (l : Lexer) (input : List Char) : Nat → Tokens → Tokens
  | 0, ts => ts
  | n + 1, ts => after l input n (ts.next l input).2

/-- The offsets at which contexts are asked in the next `n` calls. -/
def asked (l : Lexer) (input : List Char) : Nat → Tokens → List Nat
  | 0, _ => []
  | n + 1, ts => (ts.nextAsking l input).2 ++ asked l input n (ts.next l input).2

/-- Whatever the number of calls, contexts are asked at most `bound` times in them and give at most
`bound` items; after `bound` calls there is no item any more. -/
structure DrainedWithin (l : Lexer) (input : List Char) (bound : Nat) (ts : Tokens) : Prop where
  asked : ∀ n, (ts.asked l input n).length ≤ bound
  items : ∀ n, (ts.items l input n).length ≤ bound
  ended : ∀ n, bound ≤ n → ((ts.after l input n).next l input).1 = none

end Tokens

namespace Lexer

variable {l : Lexer} {input : List Char} {s : ScanState}

/-! ## One scan -/

/-- At most one context is asked in a step: the one of the state, at its offset, unless the input
ends there or the context is not in the table. -/
theorem stepAsking_snd (l : Lexer) (input : List Char) (s : ScanState) :
    (l.stepAsking input s).2
      = if s.offset < Text.byteLength input ∧ l.context? s.context ≠ none then [s.offset]
        else [] := by
  unfold stepAsking
  split_ifs with hle hand hand
  · omega
  · rfl
  · obtain ⟨c, hc⟩ := Option.ne_none_iff_exists'.1 hand.2
    simp only [hc, Context.matchAsking]
    rcases c.matchAt input s.offset s.row s.column with e | m <;> rfl
  · have hc : l.context? s.context = none := by
      by_contra hne
      exact hand ⟨Nat.lt_of_not_le hle, hne⟩
    simp only [hc]

theorem mem_stepAsking_iff {o : Nat} :
    o ∈ (l.stepAsking input s).2 ↔
      s.offset = o ∧ o < Text.byteLength input ∧ l.context? s.context ≠ none := by
  rw [stepAsking_snd]
  split_ifs with h
  · rw [List.mem_singleton]
    exact ⟨by rintro rfl; exact ⟨rfl, h⟩, fun ⟨ho, _⟩ => ho.symm⟩
  · simp only [List.not_mem_nil, false_iff]
    rintro ⟨rfl, h'⟩
    exact h h'

theorem ascends_stepAsking {high : Nat}
    (h : s.offset < Text.byteLength input → s.offset < high) :
    Ascends s.offset high (l.stepAsking input s).2 := by
  rw [stepAsking_snd]
  split_ifs with hasked
  · exact .singleton (h hasked.1)
  · exact .nil

/-- A scan asks in the step at its state, and goes on to ask after a piece that it skips. -/
theorem scanAsking_eq (l : Lexer) (input : List Char) (s : ScanState) :
    l.scanAsking input s =
      match l.step input s with
      | .ended => (.ok none, (l.stepAsking input s).2)
      | .failed e => (.error e, (l.stepAsking input s).2)
      | .piece t =>
        if t.keep then (.ok (some t), (l.stepAsking input s).2)
        else ((l.scanAsking input t.resume).1,
          (l.stepAsking input s).2 ++ (l.scanAsking input t.resume).2) := by
  rw [scanAsking, ← stepAsking_fst]
  split <;> rename_i h <;> rw [h]

theorem scanAsking_fst (l : Lexer) (input : List Char) (s : ScanState) :
    (l.scanAsking input s).1 = l.scan input s := by
  fun_induction scan l input s with
  | case1 s h => rw [scanAsking_eq, h]
  | case2 s e h => rw [scanAsking_eq, h]
  | case3 s t h hkeep => simp [scanAsking_eq l input s, h, hkeep]
  | case4 s t h hkeep ih => simp [scanAsking_eq l input s, h, hkeep, ih]

theorem Halts.asked_eq (h : l.Halts input s) :
    (l.scanAsking input s).2 = (l.stepAsking input s).2 := by
  rw [scanAsking_eq]
  split
  · rfl
  · rfl
  · rename_i t ht
    rw [h t ht]
    rfl

theorem asked_of_skip {t : Token} (h : l.step input s = .piece t) (hkeep : t.keep = false) :
    (l.scanAsking input s).2 = (l.stepAsking input s).2 ++ (l.scanAsking input t.resume).2 := by
  simp [scanAsking_eq l input s, h, hkeep]

theorem Halts.passes_iff (h : l.Halts input s) {q : ScanState} : l.Passes input s q ↔ q = s := by
  constructor
  · intro hq
    cases hq with
    | refl => rfl
    | skip hstep hkeep _ => rw [h _ hstep] at hkeep; cases hkeep
  · rintro rfl
    exact .refl

theorem passes_iff_of_skip {t : Token} (h : l.step input s = .piece t) (hkeep : t.keep = false)
    {q : ScanState} : l.Passes input s q ↔ q = s ∨ l.Passes input t.resume q := by
  constructor
  · intro hq
    cases hq with
    | refl => exact .inl rfl
    | skip hstep _ hrest =>
      rw [h] at hstep
      cases hstep
      exact .inr hrest
  · rintro (rfl | hq)
    · exact .refl
    · exact .skip h hkeep hq

/-- Contexts are asked at the states that the scan passes, where these are before the end of the
input and in a context of the table. -/
theorem mem_scanAsking_iff {o : Nat} :
    o ∈ (l.scanAsking input s).2 ↔
      ∃ q, l.Passes input s q ∧ q.offset = o ∧ o < Text.byteLength input ∧
        l.context? q.context ≠ none := by
  obtain ⟨stop, hstop, hhalts⟩ := exists_passes_halts l input s
  induction hstop with
  | refl => simp only [hhalts.asked_eq, hhalts.passes_iff, mem_stepAsking_iff, exists_eq_left]
  | skip hstep hkeep _ ih =>
    simp only [asked_of_skip hstep hkeep, passes_iff_of_skip hstep hkeep, List.mem_append,
      mem_stepAsking_iff, ih hhalts, or_and_right, exists_or, exists_eq_left]

/-- The offsets of a scan ascend below any bound that the states it passes stay below. -/
theorem ascends_scanAsking {high : Nat}
    (hhigh : ∀ q, l.Passes input s q → q.offset < Text.byteLength input → q.offset < high) :
    Ascends s.offset high (l.scanAsking input s).2 := by
  obtain ⟨stop, hstop, hhalts⟩ := exists_passes_halts l input s
  induction hstop with
  | refl =>
    rw [hhalts.asked_eq]
    exact ascends_stepAsking (hhigh _ .refl)
  | skip hstep hkeep _ ih =>
    rw [asked_of_skip hstep hkeep]
    have hlt := (offset_lt_of_step hstep).2
    refine (ascends_stepAsking fun _ => hlt).append
      (ih (fun q hq => hhigh q (.skip hstep hkeep hq)) hhalts) hlt.le fun o ho => ?_
    exact ((ascends_stepAsking (hhigh _ .refl)).within o ho).2

theorem ascends_scanAsking_input (l : Lexer) (input : List Char) (s : ScanState) :
    Ascends s.offset (Text.byteLength input) (l.scanAsking input s).2 :=
  ascends_scanAsking fun _ _ hlt => hlt

/-- A token ends past all offsets that are asked at for it. -/
theorem ascends_scanAsking_of_scan {t : Token} (h : l.scan input s = .ok (some t)) :
    Ascends s.offset t.resume.offset (l.scanAsking input s).2 :=
  ascends_scanAsking fun _ hq _ => (offset_lt_of_scan (scan_eq_of_passes hq ▸ h)).2

/-! ## All calls -/

theorem nextAsking_fst (l : Lexer) (input : List Char) (ts : Tokens) :
    (ts.nextAsking l input).1 = ts.next l input := by
  obtain ⟨_ | s⟩ := ts
  · rfl
  · simp only [Tokens.nextAsking, Tokens.next, ← scanAsking_fst]
    rcases l.scanAsking input s with ⟨e | _ | t, asked⟩ <;> rfl

theorem nextAsking_snd (l : Lexer) (input : List Char) (s : ScanState) :
    (Tokens.nextAsking l input ⟨some s⟩).2 = (l.scanAsking input s).2 := by
  simp only [Tokens.nextAsking]
  rcases l.scanAsking input s with ⟨e | _ | t, asked⟩ <;> rfl

theorem asked_ended (l : Lexer) (input : List Char) : ∀ n, Tokens.asked l input n ⟨none⟩ = []
  | 0 => rfl
  | n + 1 => asked_ended l input n

/-- Further calls ask only if the first one finds a token. -/
theorem asked_succ (l : Lexer) (input : List Char) (n : Nat) (s : ScanState) :
    Tokens.asked l input (n + 1) ⟨some s⟩ = (l.scanAsking input s).2 ++
      match l.scan input s with
      | .ok (some t) => Tokens.asked l input n ⟨some t.resume⟩
      | _ => [] := by
  simp only [Tokens.asked, nextAsking_snd, Tokens.next]
  rcases l.scan input s with e | _ | t
  · simp only [asked_ended]
  · simp only [asked_ended]
  · rfl

theorem ascends_asked (l : Lexer) (input : List Char) :
    ∀ n s, Ascends s.offset (Text.byteLength input) (Tokens.asked l input n ⟨some s⟩)
  | 0, _ => .nil
  | n + 1, s => by
    rw [asked_succ]
    rcases hs : l.scan input s with e | _ | t
    · simpa using ascends_scanAsking_input l input s
    · simpa using ascends_scanAsking_input l input s
    · exact (ascends_scanAsking_of_scan hs).append (ascends_asked l input n t.resume)
        (offset_lt_of_scan hs).2.le fun o ho => ((ascends_scanAsking_input l input s).within o ho).2

theorem isBoundary_of_mem_asked (hl : l.WellGrouped) {o : Nat} :
    ∀ {n s}, l.Reachable input s → o ∈ Tokens.asked l input n ⟨some s⟩ → Text.IsBoundary o input
  | 0, _, _, ho => by cases ho
  | n + 1, s, hs, ho => by
    rw [asked_succ] at ho
    rcases List.mem_append.1 ho with ho | ho
    · obtain ⟨q, hq, rfl, -⟩ := mem_scanAsking_iff.1 ho
      obtain ⟨-, before, ⟨rest, hrest⟩, hplace⟩ := standsIn_of_passes hl hq (hs.standsIn hl)
      exact ⟨before, rest, hrest.symm, by rw [hplace]; rfl⟩
    · rcases hscan : l.scan input s with e | _ | t
      · simp [hscan] at ho
      · simp [hscan] at ho
      · rw [hscan] at ho
        exact isBoundary_of_mem_asked hl (hs.resume hscan) ho

/-- A token is followed by a context of the table, whether the lexer is well grouped or not. -/
theorem registered_of_scan {t : Token} (h : l.scan input s = .ok (some t)) :
    l.context? t.resume.context ≠ none := by
  fun_induction scan l input s with
  | case1 => cases h
  | case2 => cases h
  | case3 s u hu =>
    cases h
    obtain ⟨c, m, kind, -, -, -, hnext, rfl⟩ := step_eq_piece_iff.1 hu
    simpa only [tokenOf, ScanState.advance_context] using hnext
  | case4 _ _ _ _ ih => exact ih h

theorem length_items_le_length_asked (l : Lexer) (input : List Char) :
    ∀ n s, l.context? s.context ≠ none →
      (Tokens.items l input n ⟨some s⟩).length ≤ (Tokens.asked l input n ⟨some s⟩).length
  | 0, _, _ => le_rfl
  | n + 1, s, hs => by
    have hasked : l.scan input s ≠ .ok none → 0 < (l.scanAsking input s).2.length := by
      intro hne
      have hlt : s.offset < Text.byteLength input := Nat.lt_of_not_le fun hle =>
        hne (scan_eq_of_step_ended (step_eq_ended_iff.2 hle))
      exact List.length_pos_of_mem (mem_scanAsking_iff.2 ⟨s, .refl, rfl, hlt, hs⟩)
    rw [asked_succ]
    rcases hscan : l.scan input s with e | _ | t
    · simpa [Tokens.items, Tokens.next, hscan, items_ended, Nat.succ_le_iff] using hasked
    · simp [Tokens.items, Tokens.next, hscan, items_ended]
    · have := hasked (by simp [hscan])
      have := length_items_le_length_asked l input n t.resume (registered_of_scan hscan)
      simp only [Tokens.items, Tokens.next, hscan, Option.toList_some, List.length_append,
        List.length_singleton]
      omega

/-- If a call gives an item, so has every call before it. -/
theorem length_items_of_next_ne_none :
    ∀ {n ts}, ((Tokens.after l input n ts).next l input).1 ≠ none →
      (Tokens.items l input (n + 1) ts).length = n + 1
  | 0, ts, h => by
    obtain ⟨item, hitem⟩ := Option.ne_none_iff_exists'.1 h
    simp only [Tokens.after] at hitem
    simp [Tokens.items, hitem]
  | n + 1, ts, h => by
    have hrest : (Tokens.items l input (n + 1) (ts.next l input).2).length = n + 1 :=
      length_items_of_next_ne_none h
    rcases hitem : (ts.next l input).1 with _ | item
    · have hended := Tokens.snd_next_of_fst_eq_none hitem
      rw [hended, items_ended] at hrest
      cases hrest
    · rw [Tokens.items, hitem, List.length_append, hrest]
      exact Nat.add_comm 1 (n + 1)

/-- A bound on the offsets that are asked at bounds the items and the calls that give one. -/
theorem drainedWithin_of_asked {bound : Nat}
    (h : ∀ n, (l.tokens.asked l input n).length ≤ bound) :
    l.tokens.DrainedWithin l input bound where
  asked := h
  items n := (length_items_le_length_asked l input n _ (registered_initial l)).trans (h n)
  ended n hn := by
    by_contra hne
    have hlength : (Tokens.items l input (n + 1) ⟨some l.initialState⟩).length = n + 1 :=
      length_items_of_next_ne_none hne
    have := (length_items_le_length_asked l input (n + 1) _ (registered_initial l)).trans (h _)
    omega

/-- Every scan comes to a state at which it skips nothing, and asks at each state that it passes,
before the end of the input and in a context of the table. The offsets at which it does ascend below
the end of the input, in a scan from any state and over all calls of an iterator. So no more
contexts are asked than the input has bytes, and in a well-grouped lexer than it has characters; nor
are there more items, or calls that give one. -/
theorem scans_and_drains_end (l : Lexer) (input : List Char) :
    (∀ s, (l.scanAsking input s).1 = l.scan input s ∧
      (∃ stop, l.Passes input s stop ∧ l.Halts input stop) ∧
      (∀ o, o ∈ (l.scanAsking input s).2 ↔ ∃ q, l.Passes input s q ∧ q.offset = o ∧
        o < Text.byteLength input ∧ l.context? q.context ≠ none) ∧
      Ascends s.offset (Text.byteLength input) (l.scanAsking input s).2) ∧
    (∀ ts : Tokens, (ts.nextAsking l input).1 = ts.next l input) ∧
    (∀ n, Ascends 0 (Text.byteLength input) (l.tokens.asked l input n)) ∧
    l.tokens.DrainedWithin l input (Text.byteLength input) ∧
    (l.WellGrouped → (∀ n, ∀ o ∈ l.tokens.asked l input n, Text.IsBoundary o input) ∧
      l.tokens.DrainedWithin l input input.length) := by
  have hascends : ∀ n, Ascends 0 (Text.byteLength input) (l.tokens.asked l input n) :=
    fun n => ascends_asked l input n l.initialState
  refine ⟨fun s => ⟨scanAsking_fst l input s, exists_passes_halts l input s,
    fun _ => mem_scanAsking_iff, ascends_scanAsking_input l input s⟩, nextAsking_fst l input,
    hascends, drainedWithin_of_asked fun n => (hascends n).length_le, fun hl => ?_⟩
  have hboundary : ∀ n, ∀ o ∈ l.tokens.asked l input n, Text.IsBoundary o input :=
    fun n o ho => isBoundary_of_mem_asked hl .initial ho
  exact ⟨hboundary,
    drainedWithin_of_asked fun n => (hascends n).length_le_of_isBoundary (hboundary n)⟩

/-- Two contexts that skip any one character and choose each other. -/
def swayLexer : Lexer where
  contexts :=
    [(.name "left",
      { message := "none"
        flags := {}
        rules := [.skip "." (.name "right")]
        node := .grouped [.anyChar, .anyChar] }),
    (.name "right",
      { message := "none"
        flags := {}
        rules := [.skip "." (.name "left")]
        node := .grouped [.anyChar, .anyChar] })]
  contexts_ne_nil := by simp
  ids_nodup := by simp

open scoped Unicode in
/-- The contexts are asked at each character, by one call that finds nothing. -/
theorem scans_and_drains_end_swayLexer :
    swayLexer.Built ∧ swayLexer.WellGrouped ∧
      swayLexer.tokens.asked swayLexer ['é', 'b'] 1 = [0, 2] ∧
      Text.IsBoundary 2 ['é', 'b'] ∧
      swayLexer.tokens.DrainedWithin swayLexer ['é', 'b'] 2 := by
  have hl : swayLexer.WellGrouped := by
    intro x hx
    rcases List.mem_cons.1 hx with rfl | hx
    · exact ⟨[.anyChar], rfl, by simp [Pattern.Node.anyChar, Pattern.Node.Captures], rfl⟩
    · obtain rfl := List.mem_singleton.1 hx
      exact ⟨[.anyChar], rfl, by simp [Pattern.Node.anyChar, Pattern.Node.Captures], rfl⟩
  have hasked : swayLexer.tokens.asked swayLexer ['é', 'b'] 1 = [0, 2] := by
    have hleft : swayLexer.step ['é', 'b'] swayLexer.initialState
        = .piece ⟨"", "é", ⟨0, 0, 1, 1, 1, 2⟩, false, ⟨.name "right", 1, 2, 1, 2⟩⟩ := rfl
    have hright : swayLexer.step ['é', 'b'] ⟨.name "right", 1, 2, 1, 2⟩
        = .piece ⟨"", "b", ⟨1, 2, 1, 2, 1, 3⟩, false, ⟨.name "left", 2, 3, 1, 3⟩⟩ := rfl
    have hended : swayLexer.step ['é', 'b'] ⟨.name "left", 2, 3, 1, 3⟩ = .ended := rfl
    have hscan : swayLexer.scan ['é', 'b'] swayLexer.initialState = .ok none := by
      rw [scan_eq_of_step_piece hleft, if_neg (by simp), scan_eq_of_step_piece hright,
        if_neg (by simp), scan_eq_of_step_ended hended]
    rw [tokens, asked_succ, hscan, asked_of_skip hleft rfl, asked_of_skip hright rfl,
      (halts_of_ended hended).asked_eq, stepAsking_snd, stepAsking_snd, stepAsking_snd]
    rfl
  obtain ⟨-, -, -, -, hgrouped⟩ := scans_and_drains_end swayLexer ['é', 'b']
  obtain ⟨hboundary, hdrained⟩ := hgrouped hl
  exact ⟨by decide +kernel, hl, hasked, hboundary 1 2 (by simp [hasked]), hdrained⟩

end Lexer

end ModalLex
