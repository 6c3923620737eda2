import ModalLex.Proofs.Branches

/-!
# Groups

A group around a node without groups of its own holds what the node matches by itself, from the
start of the search on, whatever the number of the group (`search_capture`). Of groups side by
side the first one whose node matches holds something, and no other does
(`search_groupedFrom`, `captured?_ofGroup_of_ne`).
-/

namespace ModalLex.Pattern

/-- The code notes no mark. -/
def Code.Silent : Code → Prop
  | skip | read _ _ | look _ => True
  | mark _ => False
  | seq a b | alt _ a b => a.Silent ∧ b.Silent
  | loop _ _ body => body.Silent

/-- Every number under which the node notes a capture is in `P`. -/
def Node.Captures (P : Nat → Prop) : Node → Prop
  | empty | literal _ | set .. | look _ => True
  | repeated _ _ _ body => body.Captures P
  | capture number body => P number ∧ body.Captures P
  | seq a b | alt a b => a.Captures P ∧ b.Captures P

/-- The node notes no capture. -/
abbrev Node.Silent (n : Node) : Prop := n.Captures fun _ => False

theorem Node.Silent.marksFixed {g : Mark → Mark} : ∀ {n : Node}, n.Silent → n.MarksFixed g
  | empty, _ | literal _, _ | set .., _ | look _, _ => trivial
  | repeated _ _ _ body, h => marksFixed (n := body) h
  | capture _ _, h => h.1.elim
  | seq _ _, h | alt _ _, h => ⟨marksFixed h.1, marksFixed h.2⟩

/-! ## Writing -/

/-- `P` holds of code that asserts and notes nothing as far as it holds of its parts. -/
structure Code.Closed (P : Code → Prop) : Prop where
  skip : P skip
  read (label : Nat) (chars : CharSet) : P (read label chars)
  seq {a b : Code} : P a → P b → P (seq a b)
  alt (label : Nat) {a b : Code} : P a → P b → P (alt label a b)
  loop (label : Nat) (greedy : Bool) {body : Code} : P body → P (loop label greedy body)

/-- `P` holds of what is written for each assertion and each capture of the node. -/
def Node.Leaves (P : Code → Prop) : Node → Prop
  | empty | literal _ | set .. => True
  | look assertion => P (.look assertion)
  | repeated _ _ _ body => body.Leaves P
  | capture number body => P (.mark (.opens number)) ∧ P (.mark (.closes number)) ∧ body.Leaves P
  | seq a b | alt a b => a.Leaves P ∧ b.Leaves P

section Closed

variable {P : Code → Prop}

namespace Code.Closed

variable {body : Writer}

theorem copies (hP : Closed P) (hb : ∀ next, P (body next).1) :
    ∀ (n : Nat) {rest : Code} (next : Nat), P rest → P (copies body n rest next).1
  | 0, _, _, hr => hr
  | n + 1, _, next, hr => copies hP hb n (body next).2 (hP.seq (hb next) hr)

theorem option (hP : Closed P) {label : Nat} {body : Code} (hb : P body) (greedy : Bool) :
    P (option label greedy body) := by
  cases greedy
  · exact hP.alt label hP.skip hb
  · exact hP.alt label hb hP.skip

theorem options (hP : Closed P) (hb : ∀ next, P (body next).1) (greedy : Bool) :
    ∀ (n : Nat) {rest : Code} (next : Nat), P rest → P (options greedy body n rest next).1
  | 0, _, _, hr => hr
  | n + 1, _, next, hr =>
    options hP hb greedy n (body (next + 1)).2 (hP.option (hP.seq (hb (next + 1)) hr) greedy)

theorem plus (hP : Closed P) (hb : ∀ next, P (body next).1) (greedy : Bool) (next : Nat) :
    P (plus greedy body next).1 :=
  hP.seq (hb (next + 1)) (hP.loop next greedy (hb (next + 1)))

theorem star (hP : Closed P) (hb : ∀ next, P (body next).1) (greedy nonempty : Bool)
    (next : Nat) : P (star greedy nonempty body next).1 := by
  cases nonempty
  · exact hP.option (hP.plus hb greedy (next + 1)) greedy
  · exact hP.loop next greedy (hb (next + 1))

theorem text (hP : Closed P) : ∀ (cs : List Char) (next : Nat), P (text cs next).1
  | [], _ => hP.skip
  | [_], next => hP.read next _
  | _ :: d :: cs, next => hP.seq (hP.read next _) (text hP (d :: cs) (next + 1))

end Code.Closed

theorem write_of_closed (hP : Code.Closed P) :
    ∀ {n : Node}, n.Leaves P → ∀ next, P (n.write next).1
  | .empty, _, _ => hP.skip
  | .literal text, _, next => hP.text text next
  | .set _ chars, _, next => hP.read next chars
  | .look _, h, _ => h
  | .repeated min max greedy body, h, next => by
    have hb : ∀ next, P (body.write next).1 := write_of_closed hP (n := body) h
    match min, max with
    | 0, none => exact hP.star hb greedy _ next
    | n + 1, none => exact hP.copies hb n _ (hP.plus hb greedy next)
    | min, some max => exact hP.copies hb min _ (hP.options hb greedy (max - min) next hP.skip)
  | .capture _ _, h, next => hP.seq h.1 (hP.seq (write_of_closed hP h.2.2 next) h.2.1)
  | .seq a _, h, next =>
    hP.seq (write_of_closed hP h.1 next) (write_of_closed hP h.2 (a.write next).2)
  | .alt a _, h, next =>
    hP.alt next (write_of_closed hP h.1 (next + 1)) (write_of_closed hP h.2 (a.write (next + 1)).2)

end Closed

theorem Node.Silent.leaves : ∀ {n : Node}, n.Silent → n.Leaves Code.Silent
  | empty, _ | literal _, _ | set .., _ | look _, _ => trivial
  | repeated _ _ _ body, h => leaves (n := body) h
  | capture _ _, h => h.1.elim
  | seq _ _, h | alt _ _, h => ⟨leaves h.1, leaves h.2⟩

theorem write_silent {n : Node} (h : n.Silent) (next : Nat) : (n.write next).1.Silent :=
  write_of_closed
    { skip := trivial, read := fun _ _ => trivial, seq := And.intro, alt := fun _ => And.intro,
      loop := fun _ _ => id }
    h.leaves next

/-- The thread has noted `a` at the start of the search, and notes nothing but `b` at its end; it
has not come to its end after `place`. -/
def Thread.Between (a b : Mark) (place : Nat) : Thread → Prop
  | reading _ rest marks =>
    marks = [(a, 0)] ∧ ∃ cs : List Code, rest = cs ++ [.mark b] ∧ ∀ c ∈ cs, c.Silent
  | finished marks => ∃ stop ≤ place, marks = [(b, stop), (a, 0)]

section Between

variable {a b : Mark}

theorem way_between {p : Place} :
    ∀ {c : Code} {cs : List Code} {go : Way}, c.Silent → (∀ d ∈ cs, d.Silent) →
      (∀ seen, ∀ t ∈ (go [(a, 0)] seen).1, t.Between a b p.read) →
      ∀ seen, ∀ t ∈ (c.way p (cs ++ [.mark b]) go [(a, 0)] seen).1, t.Between a b p.read
  | .skip, _, _, _, _, hgo, seen, t, h => hgo seen t h
  | .read label chars, cs, _, _, hcs, _, seen, t, h => by
    simp only [Code.way, Way.through] at h
    split at h
    · simp at h
    · obtain rfl := List.mem_singleton.1 h
      exact ⟨rfl, cs, rfl, hcs⟩
  | .look assertion, _, _, _, _, hgo, seen, t, h => by
    simp only [Code.way] at h
    split at h
    · exact hgo seen t h
    · simp [Way.dead] at h
  | .seq c d, cs, _, hc, hcs, hgo, seen, t, h =>
    @way_between p c (d :: cs) _ hc.1 (List.forall_mem_cons.2 ⟨hc.2, hcs⟩)
      (way_between hc.2 hcs hgo) seen t h
  | .alt label c d, _, _, hc, hcs, hgo, seen, t, h => by
    simp only [Code.way, Way.through] at h
    split at h
    · simp at h
    · rcases List.mem_append.1 h with h | h
      · exact way_between hc.1 hcs hgo _ t h
      · exact way_between hc.2 hcs hgo _ t h
  | .loop label greedy body, cs, _, hc, hcs, hgo, seen, t, h => by
    have hround : ∀ seen, ∀ t ∈ (body.way p (.loop label greedy body :: cs ++ [.mark b]) .dead
        [(a, 0)] seen).1, t.Between a b p.read :=
      @way_between p body (.loop label greedy body :: cs) _ hc (List.forall_mem_cons.2 ⟨hc, hcs⟩)
        (fun _ t h => by simp [Way.dead] at h)
    simp only [Code.way, Way.through] at h
    split at h
    · simp at h
    · split at h
      · rcases List.mem_append.1 h with h | h
        · exact hround _ t h
        · exact hgo _ t h
      · rcases List.mem_append.1 h with h | h
        · exact hgo _ t h
        · exact hround _ t h

theorem wayOf_between {p : Place} :
    ∀ {cs : List Code}, (∀ c ∈ cs, c.Silent) →
      ∀ seen, ∀ t ∈ (wayOf p (cs ++ [.mark b]) [(a, 0)] seen).1, t.Between a b p.read
  | [], _, _, t, h => by
    obtain rfl := List.mem_singleton.1 h
    exact ⟨p.read, le_rfl, rfl⟩
  | _ :: _, hcs, seen, t, h =>
    way_between (hcs _ List.mem_cons_self) (fun d hd => hcs d (List.mem_cons_of_mem _ hd))
      (wayOf_between fun d hd => hcs d (List.mem_cons_of_mem _ hd)) seen t h

theorem advance_between (c : Char) {p : Place} {place : Nat} :
    ∀ {ts : List Thread} {seen : Labels}, (∀ t ∈ ts, t.Between a b place) →
      ∀ t ∈ advance c p ts seen, t.Between a b p.read
  | [], _, _, t, h => by simp [advance] at h
  | .finished _ :: _, _, _, t, h => by simp [advance] at h
  | .reading chars rest marks :: ts, seen, hts, t, h => by
    obtain ⟨rfl, cs, rfl, hcs⟩ := hts _ List.mem_cons_self
    have htail : ∀ t ∈ ts, t.Between a b place := fun t ht => hts t (List.mem_cons_of_mem _ ht)
    simp only [advance] at h
    split at h
    · rcases List.mem_append.1 h with h | h
      · exact wayOf_between hcs seen t h
      · exact advance_between c htail t h
    · exact advance_between c htail t h

theorem finished?_between {place : Nat} :
    ∀ {ts : List Thread} {marks : Marks}, (∀ t ∈ ts, t.Between a b place) →
      finished? ts = some marks → ∃ stop ≤ place, marks = [(b, stop), (a, 0)]
  | .finished _ :: _, _, hts, h => by
    obtain rfl := Option.some.inj h
    exact hts _ List.mem_cons_self
  | .reading .. :: _, _, hts, h =>
    finished?_between (fun t ht => hts t (List.mem_cons_of_mem _ ht)) h

theorem runThreads_between :
    ∀ {ts : List Thread} {read : Nat} {text : List Char} {marks : Marks},
      (∀ t ∈ ts, t.Between a b read) → runThreads none ts read text = some marks →
      ∃ stop ≤ read + text.length, marks = [(b, stop), (a, 0)]
  | ts, read, [], marks, hts, h => by
    rw [runThreads_nil] at h
    exact finished?_between hts h
  | ts, read, c :: text, marks, hts, h => by
    rw [runThreads_cons, Option.or_eq_some_iff] at h
    rcases h with h | ⟨-, h⟩
    · obtain ⟨stop, hle, rfl⟩ := runThreads_between (advance_between c hts) h
      exact ⟨stop, by simp only [List.length_cons] at hle ⊢; omega, rfl⟩
    · obtain ⟨stop, hle, rfl⟩ := finished?_between hts h
      exact ⟨stop, by omega, rfl⟩

end Between

/-! ## What a group holds -/

/-- How much of a text the node matches by itself: up to where a group around the whole of it
closes. -/
def Node.matchLength? (n : Node) (before : Option Char) (text : List Char) : Option Nat := do
  let marks ← (Node.capture 0 n).code.search before text
  marks.place? (.closes 0)

/-- What the node matches of a text by itself. -/
def Node.match? (n : Node) (before : Option Char) (text : List Char) : Option (List Char) :=
  (n.matchLength? before text).map (text.take ·)

/-- A mark of a group as the same mark of the group with the given number. -/
def Mark.renumber (number : Nat) : Mark → Mark
  | opens _ => opens number
  | closes _ => closes number

/-- The marks of a group that holds the text up to a place. -/
def Marks.ofGroup (number stop : Nat) : Marks := [(.closes number, stop), (.opens number, 0)]

theorem captured?_ofGroup_self (number stop : Nat) (text : List Char) :
    (Marks.ofGroup number stop).captured? number text = some (text.take stop) := by
  simp [Marks.captured?, Marks.ofGroup, Marks.place?]

theorem captured?_ofGroup_of_ne {number other : Nat} (h : other ≠ number) (stop : Nat)
    (text : List Char) : (Marks.ofGroup number stop).captured? other text = none := by
  simp [Marks.captured?, Marks.ofGroup, Marks.place?, h.symm]

theorem firstCaptured?_ofGroup {number groups : Nat} (h1 : 1 ≤ number) (hle : number ≤ groups)
    (stop : Nat) (text : List Char) :
    (Marks.ofGroup number stop).firstCaptured? groups text = some (number, text.take stop) := by
  obtain ⟨k, rfl⟩ : ∃ k, groups = (number - 1) + (1 + k) := ⟨groups - number, by omega⟩
  have hbefore : (List.range' 1 (number - 1)).findSome? (fun n =>
      ((Marks.ofGroup number stop).captured? n text).map (n, ·)) = none := by
    rw [List.findSome?_eq_none_iff]
    intro n hn
    have hne : n ≠ number := by
      have := (List.mem_range'_1.1 hn).2
      omega
    rw [captured?_ofGroup_of_ne hne, Option.map_none]
  rw [Marks.firstCaptured?, ← List.range'_append_1, List.findSome?_append, hbefore,
    ← List.range'_append_1, show 1 + (number - 1) = number by omega]
  simp [captured?_ofGroup_self]

section Groups

variable {n : Node} (before : Option Char) (text : List Char)

/-- The search for a group around a silent node ends with the marks of that group alone. -/
theorem search_capture_zero (hn : n.Silent) {marks : Marks}
    (h : (Node.capture 0 n).code.search before text = some marks) :
    ∃ stop ≤ text.length, marks = .ofGroup 0 stop := by
  have hbetween : ∀ t ∈ (wayOf ⟨before, text.head?, 0⟩ [(n.write 0).1, .mark (.closes 0)]
      [(.opens 0, 0)] .none).1, t.Between (.opens 0) (.closes 0) 0 :=
    @wayOf_between _ _ _ [(n.write 0).1] (by simpa using write_silent hn 0) .none
  obtain ⟨stop, hle, rfl⟩ := runThreads_between hbetween h
  exact ⟨stop, by omega, rfl⟩

/-- The number of a group changes nothing but the number in its marks. -/
theorem search_capture_renumber (hn : n.Silent) (number : Nat) :
    (Node.capture number n).code.search before text
      = ((Node.capture 0 n).code.search before text).map
          (Marks.rename (Mark.renumber number)) := by
  have hbody : (n.write 0).1 = (n.write 0).1.rename (· + 0) (Mark.renumber number) :=
    congrArg Prod.fst (write_add n hn.marksFixed 0 0)
  have hcode : (Node.capture number n).code
      = (Node.capture 0 n).code.rename (· + 0) (Mark.renumber number) :=
    congrArg (fun c => Code.seq (.mark (.opens number)) (.seq c (.mark (.closes number)))) hbody
  rw [hcode, search_rename fun _ _ => Nat.add_right_cancel]

/-- A group around a silent node holds what the node matches by itself. -/
theorem search_capture (hn : n.Silent) (number : Nat) :
    (Node.capture number n).code.search before text
      = (n.matchLength? before text).map (Marks.ofGroup number ·) := by
  rw [search_capture_renumber before text hn, Node.matchLength?]
  rcases h : (Node.capture 0 n).code.search before text with _ | marks
  · rfl
  · obtain ⟨stop, -, rfl⟩ := search_capture_zero before text hn h
    rfl

end Groups

/-! ## Groups side by side -/

/-- The nodes as branches, each in a group; the groups are numbered from `first` on. -/
def Node.groupedFrom (first : Nat) (nodes : List Node) : Node :=
  .ofBranches ((nodes.zipIdx first).map fun (n, number) => .capture number n)

/-- The nodes as branches, each in a group; the groups are numbered from one on. -/
def Node.grouped (nodes : List Node) : Node := .groupedFrom 1 nodes

/-- Any one character. -/
def Node.anyChar : Node := .set false .all

/-- The marks of the first group whose node matches; the groups are numbered from `first` on. -/
def firstGroup? (before : Option Char) (text : List Char) : (first : Nat) → List Node →
    Option Marks
  | _, [] => none
  | first, n :: nodes =>
    ((n.matchLength? before text).map (Marks.ofGroup first ·)).or
      (firstGroup? before text (first + 1) nodes)

theorem search_groupedFrom (before : Option Char) (text : List Char) {nodes : List Node}
    (hne : nodes ≠ []) (hs : ∀ n ∈ nodes, n.Silent) (first : Nat) :
    (Node.groupedFrom first nodes).code.search before text
      = firstGroup? before text first nodes := by
  rw [Node.groupedFrom, search_ofBranches before text _ (by simpa using hne), List.findSome?_map]
  clear hne
  induction nodes generalizing first with
  | nil => rfl
  | cons n nodes ih =>
    obtain ⟨hn, hrest⟩ := List.forall_mem_cons.1 hs
    simp only [List.zipIdx_cons, List.findSome?_cons, Function.comp_apply, firstGroup?,
      search_capture before text hn, ih hrest (first + 1)]
    cases n.matchLength? before text <;> rfl

end ModalLex.Pattern
