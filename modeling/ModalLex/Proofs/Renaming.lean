import ModalLex.Proofs.Labels

/-!
# Names of labels and marks

Which labels a piece of code has does not matter as long as they differ, and its marks are only
noted: renaming both renames the marks of a match and changes nothing else (`search_rename`).
Writing the code of a node from another label on is such a renaming (`write_add`), so what the
code finds does not depend on the first label (`search_write`).
-/

namespace ModalLex.Pattern

/-- The code with labels renamed by `f` and marks by `g`. -/
def Code.rename (f : Nat → Nat) (g : Mark → Mark) : Code → Code
  | skip => skip
  | read label chars => read (f label) chars
  | look assertion => look assertion
  | mark m => mark (g m)
  | seq a b => seq (a.rename f g) (b.rename f g)
  | alt label a b => alt (f label) (a.rename f g) (b.rename f g)
  | loop label greedy body => loop (f label) greedy (body.rename f g)

/-- The marks renamed by `g`, each at its place. -/
def Marks.rename (g : Mark → Mark) (marks : Marks) : Marks := marks.map fun m => (g m.1, m.2)

def Thread.rename (f : Nat → Nat) (g : Mark → Mark) : Thread → Thread
  | reading chars rest marks => reading chars (rest.map (Code.rename f g)) (marks.rename g)
  | finished marks => finished (marks.rename g)

/-- The second set is the first one under new names. -/
def Labels.Renamed (f : Nat → Nat) (s t : Labels) : Prop :=
  ∀ label, t.contains (f label) = s.contains label

/-- The second way is the first one under new names. -/
structure Way.Renamed (f : Nat → Nat) (g : Mark → Mark) (v w : Way) : Prop where
  threads : ∀ (marks : Marks) {s t : Labels}, s.Renamed f t →
    (w (marks.rename g) t).1 = (v marks s).1.map (Thread.rename f g)
  seen : ∀ (marks : Marks) {s t : Labels}, s.Renamed f t →
    (v marks s).2.Renamed f (w (marks.rename g) t).2

variable {f : Nat → Nat} {g : Mark → Mark}

theorem Labels.none_renamed : Labels.none.Renamed f .none := fun label => by simp

theorem Labels.Renamed.insert (hf : f.Injective) {s t : Labels} (h : s.Renamed f t)
    (label : Nat) : (s.insert label).Renamed f (t.insert (f label)) := by
  intro other
  simp [h other, hf.eq_iff]

/-! ## Ways -/

section Ways

namespace Way

theorem dead_renamed : Renamed f g dead dead where
  threads _ _ _ _ := rfl
  seen _ _ _ h := h

theorem Renamed.either {v w v' w' : Way} (h : Renamed f g v v') (h' : Renamed f g w w') :
    Renamed f g (either v w) (either v' w') where
  threads marks s t hst := by
    simp only [Way.either, List.map_append, h.threads marks hst,
      h'.threads marks (h.seen marks hst)]
  seen marks s t hst := h'.seen marks (h.seen marks hst)

theorem Renamed.through (hf : f.Injective) {v w : Way} (h : Renamed f g v w) (label : Nat) :
    Renamed f g (through label v) (through (f label) w) where
  threads marks s t hst := by
    simp only [Way.through, hst label]
    split
    · rfl
    · exact h.threads marks (hst.insert hf label)
  seen marks s t hst := by
    simp only [Way.through, hst label]
    split
    · exact hst
    · exact h.seen marks (hst.insert hf label)

theorem Renamed.mark {v w : Way} (h : Renamed f g v w) (m : Mark) (read : Nat) :
    Renamed f g (fun marks seen => v ((m, read) :: marks) seen)
      (fun marks seen => w ((g m, read) :: marks) seen) where
  threads marks _ _ hst := h.threads ((m, read) :: marks) hst
  seen marks _ _ hst := h.seen ((m, read) :: marks) hst

theorem reading_renamed (chars : CharSet) (rest : List Code) :
    Renamed f g (fun marks seen => ([.reading chars rest marks], seen))
      (fun marks seen => ([.reading chars (rest.map (Code.rename f g)) marks], seen)) where
  threads _ _ _ _ := rfl
  seen _ _ _ hst := hst

theorem finished_renamed :
    Renamed f g (fun marks seen => ([.finished marks], seen))
      (fun marks seen => ([.finished marks], seen)) where
  threads _ _ _ _ := rfl
  seen _ _ _ hst := hst

end Way

theorem way_rename (hf : f.Injective) (p : Place) :
    ∀ (c : Code) (rest : List Code) {go go' : Way}, Way.Renamed f g go go' →
      Way.Renamed f g (c.way p rest go)
        ((c.rename f g).way p (rest.map (Code.rename f g)) go')
  | .skip, _, _, _, h => h
  | .read label chars, rest, _, _, _ => (Way.reading_renamed chars rest).through hf label
  | .look assertion, _, _, _, h => by
    simp only [Code.rename, Code.way]
    split
    · exact h
    · exact Way.dead_renamed
  | .mark m, _, _, _, h => h.mark m p.read
  | .seq a b, rest, _, _, h => way_rename hf p a (b :: rest) (way_rename hf p b rest h)
  | .alt label a b, rest, _, _, h =>
    ((way_rename hf p a rest h).either (way_rename hf p b rest h)).through hf label
  | .loop label greedy body, rest, _, _, h => by
    have hround := way_rename hf p body (.loop label greedy body :: rest)
      (Way.dead_renamed (f := f) (g := g))
    cases greedy
    · exact (h.either hround).through hf label
    · exact (hround.either h).through hf label

theorem wayOf_rename (hf : f.Injective) (p : Place) :
    ∀ cs : List Code, Way.Renamed f g (wayOf p cs) (wayOf p (cs.map (Code.rename f g)))
  | [] => Way.finished_renamed
  | c :: cs => way_rename hf p c cs (wayOf_rename hf p cs)

end Ways

/-! ## The search -/

section Search

theorem finished?_rename :
    ∀ ts : List Thread,
      finished? (ts.map (Thread.rename f g)) = (finished? ts).map (Marks.rename g)
  | [] => rfl
  | .finished _ :: _ => rfl
  | .reading .. :: ts => finished?_rename ts

theorem advance_rename (hf : f.Injective) (c : Char) (p : Place) :
    ∀ (ts : List Thread) {s t : Labels}, s.Renamed f t →
      advance c p (ts.map (Thread.rename f g)) t
        = (advance c p ts s).map (Thread.rename f g)
  | [], _, _, _ => rfl
  | .finished _ :: _, _, _, _ => rfl
  | .reading chars rest marks :: ts, s, t, hst => by
    have hw := wayOf_rename (g := g) hf p rest
    simp only [List.map_cons, Thread.rename, advance]
    split
    · rw [hw.threads marks hst, advance_rename hf c p ts (hw.seen marks hst), List.map_append]
    · exact advance_rename hf c p ts hst

theorem runThreads_rename (hf : f.Injective) :
    ∀ (ts : List Thread) (read : Nat) (text : List Char),
      runThreads none (ts.map (Thread.rename f g)) read text
        = (runThreads none ts read text).map (Marks.rename g)
  | ts, read, [] => by simp only [runThreads_nil, finished?_rename]
  | ts, read, c :: text => by
    simp only [runThreads_cons, finished?_rename, advance_rename hf c _ ts Labels.none_renamed]
    rw [runThreads_rename hf _ (read + 1) text]
    cases runThreads none (advance c ⟨some c, text.head?, read + 1⟩ ts .none) (read + 1) text <;>
      rfl

/-- Code under new names finds what it found, with its marks under their new names. -/
theorem search_rename (hf : f.Injective) (c : Code) (before : Option Char) (text : List Char) :
    (c.rename f g).search before text = (c.search before text).map (Marks.rename g) := by
  have h := (wayOf_rename (g := g) hf ⟨before, text.head?, 0⟩ [c]).threads []
    Labels.none_renamed
  simp only [Code.search]
  rw [← runThreads_rename hf, ← h]
  rfl

end Search

/-! ## Writing from another label on -/

/-- What is written from a later label on is the same under new names: each label is as much
later, and marks are renamed by `g`. -/
def Code.Writer.Shifts (g : Mark → Mark) (w : Code.Writer) : Prop :=
  ∀ k next, w (next + k) = ((w next).1.rename (· + k) g, (w next).2 + k)

section Write

namespace Code

theorem copies_shifts {body : Writer} (hb : body.Shifts g) (k : Nat) :
    ∀ (n : Nat) (rest : Code) (next : Nat),
      copies body n (rest.rename (· + k) g) (next + k)
        = ((copies body n rest next).1.rename (· + k) g, (copies body n rest next).2 + k)
  | 0, _, _ => rfl
  | n + 1, rest, next => by
    simp only [copies, hb k next]
    exact copies_shifts hb k n (.seq (body next).1 rest) (body next).2

theorem options_shifts {body : Writer} (hb : body.Shifts g) (k : Nat) (greedy : Bool) :
    ∀ (n : Nat) (rest : Code) (next : Nat),
      options greedy body n (rest.rename (· + k) g) (next + k)
        = ((options greedy body n rest next).1.rename (· + k) g,
            (options greedy body n rest next).2 + k)
  | 0, _, _ => rfl
  | n + 1, rest, next => by
    have h := options_shifts hb k greedy n (option next greedy (.seq (body (next + 1)).1 rest))
      (body (next + 1)).2
    simp only [options, show next + k + 1 = next + 1 + k by omega, hb k (next + 1), ← h]
    congr 1
    cases greedy <;> rfl

theorem plus_shifts {body : Writer} (hb : body.Shifts g) (greedy : Bool) :
    (plus greedy body).Shifts g := by
  intro k next
  simp only [plus, show next + k + 1 = next + 1 + k by omega, hb k (next + 1)]
  rfl

theorem star_shifts {body : Writer} (hb : body.Shifts g) (greedy nonempty : Bool) :
    (star greedy nonempty body).Shifts g := by
  intro k next
  cases nonempty
  · simp only [star, Bool.false_eq_true, if_false, show next + k + 1 = next + 1 + k by omega,
      plus_shifts hb greedy k (next + 1)]
    cases greedy <;> rfl
  · simp only [star, if_true, show next + k + 1 = next + 1 + k by omega, hb k (next + 1)]
    rfl

theorem text_shifts : ∀ cs : List Char, (text cs).Shifts g
  | [], _, _ => rfl
  | [c], k, next => by
    simp only [text, rename, show next + k + 1 = next + 1 + k by omega]
  | c :: d :: cs, k, next => by
    simp only [text, show next + k + 1 = next + 1 + k by omega, text_shifts (d :: cs) k (next + 1),
      rename]

end Code

/-- The marks that the node can note are left as they are by `g`. -/
def Node.MarksFixed (g : Mark → Mark) : Node → Prop
  | empty | literal _ | set .. | look _ => True
  | repeated _ _ _ body => body.MarksFixed g
  | capture number body =>
    g (.opens number) = .opens number ∧ g (.closes number) = .closes number ∧ body.MarksFixed g
  | seq a b | alt a b => a.MarksFixed g ∧ b.MarksFixed g

theorem write_add :
    ∀ n : Node, n.MarksFixed g → Code.Writer.Shifts g n.write
  | .empty, _, _, _ => rfl
  | .literal text, _, k, next => Code.text_shifts text k next
  | .set _ chars, _, k, next => by
    simp only [Node.write, Code.rename, show next + k + 1 = next + 1 + k by omega]
  | .look assertion, _, _, _ => rfl
  | .repeated min none greedy body, h, k, next => by
    have hb : Code.Writer.Shifts g body.write := write_add body h
    cases min with
    | zero => exact Code.star_shifts hb greedy _ k next
    | succ n =>
      simp only [Node.write, Code.plus_shifts hb greedy k next]
      exact Code.copies_shifts hb k n _ _
  | .repeated min (some max) greedy body, h, k, next => by
    have hb : Code.Writer.Shifts g body.write := write_add body h
    have ho := Code.options_shifts hb k greedy (max - min) .skip next
    simp only [Code.rename] at ho
    simp only [Node.write, ho]
    exact Code.copies_shifts hb k min _ _
  | .capture number body, h, k, next => by
    obtain ⟨ho, hc, hb⟩ := h
    simp only [Node.write, write_add body hb k next, Code.rename, ho, hc]
  | .seq a b, h, k, next => by
    simp only [Node.write, write_add a h.1 k next, write_add b h.2 k _, Code.rename]
  | .alt a b, h, k, next => by
    simp only [Node.write, show next + k + 1 = next + 1 + k by omega, write_add a h.1 k (next + 1),
      write_add b h.2 k _, Code.rename]

end Write

theorem Node.marksFixed_id : ∀ n : Node, n.MarksFixed id
  | empty | literal _ | set .. | look _ => trivial
  | repeated _ _ _ body => body.marksFixed_id
  | capture _ body => ⟨rfl, rfl, body.marksFixed_id⟩
  | seq a b | alt a b => ⟨a.marksFixed_id, b.marksFixed_id⟩

theorem Marks.rename_id : Marks.rename id = id := by
  funext marks
  simp [Marks.rename]

/-- What the code of a node finds does not depend on the label it is written from. -/
theorem search_write (n : Node) (next : Nat) (before : Option Char) (text : List Char) :
    (n.write next).1.search before text = n.code.search before text := by
  have h := write_add n n.marksFixed_id next 0
  rw [Nat.zero_add] at h
  rw [h, search_rename fun _ _ => Nat.add_right_cancel, Marks.rename_id, Option.map_id]
  rfl

end ModalLex.Pattern
