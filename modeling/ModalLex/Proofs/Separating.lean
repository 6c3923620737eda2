import ModalLex.Proofs.Numbering

/-!
# The newline after a pattern

Where white space does not count, a newline is put after each pattern, so that it ends a comment. It
is blank itself as long as white space does not count at the end of the pattern either. Then what
stands for a rule in the composite is what its pattern stands for by itself. But flags within the
pattern can make white space count again, and then the newline is matched too
(`part?_of_ignoreWhitespace`).
-/

namespace ModalLex

open Pattern Pattern.Reading

namespace Pattern.Node

theorem branches_ofBranches {ns : List Node} (hne : ns ≠ [])
    (h : ∀ n ∈ ns, ∃ number body, n = .capture number body) : (ofBranches ns).branches = ns := by
  induction ns with
  | nil => exact absurd rfl hne
  | cons n ns ih =>
    obtain ⟨⟨number, body, rfl⟩, hns⟩ := List.forall_mem_cons.1 h
    cases ns with
    | nil => rfl
    | cons m ns =>
      rw [ofBranches, branches, ih (List.cons_ne_nil _ _) hns]
      · rfl
      · simp

end Pattern.Node

namespace Context

/-- What stands for a rule in the composite: the body of the group in its place. -/
def part? (c : Context) (k : Nat) : Option Node :=
  match c.node.branches[k]? with
  | some (.capture _ body) => some body
  | _ => none

end Context

theorem getElem?_groupItems : ∀ {es : List Reading} {k : Nat} {e : Reading} (captures : Nat),
    es[k]? = some e → ∃ captures', (groupItems captures es)[k]? = some (groupItem captures' e)
  | [], _, _, _, h => by simp at h
  | _ :: _, 0, _, captures, h => ⟨captures, by simp_all [groupItems]⟩
  | e :: _, k + 1, _, captures, h => getElem?_groupItems (captures + 1 + e.captures) h

namespace Context

section Parts

variable [Engine] {c : Context} {rules : List Rule} {message : String} {flags : Flags}

/-- What stands for a rule whose pattern captures nothing, in a composite whose patterns stay in
their groups. It is within the limits as the composite is. -/
theorem part?_of_encloses (h : ofRules rules message flags = .ok c) {es : List Reading}
    (hes : List.Forall₂ (Encloses flags) (rules.map (·.pattern)) es) {k : Nat} {e : Reading}
    (he : es[k]? = some e) (hsilent : e.group.whole.node.Silent) :
    c.part? k = some e.group.whole.node ∧ e.group.whole.depth ≤ depthLimit ∧
      Engine.fits e.group.whole.node = true := by
  obtain ⟨-, -, -, hnode, -⟩ := of_ofRules h
  obtain ⟨r, hreads, houter, hwhole, hdepth⟩ :=
    reads_composite_enclosed hes (apart_of_ofText hes hnode)
  obtain ⟨hlimit, hfits, hwholeNode⟩ := limits_of_ofText hreads hnode
  obtain ⟨captures, hitem⟩ := getElem?_groupItems 0 he
  have hmem := List.mem_of_getElem? hitem
  have hitemNode : (groupItem captures e).node = .capture (captures + 1) e.group.whole.node := by
    rw [groupItem, Node.raise_of_silent _ hsilent]
  have hcaptures : ∀ n ∈ (groupItems 0 es).map (·.node)
      ++ [.capture (capturesAfter 0 es + 1) .anyChar], ∃ number body, n = .capture number body :=
    List.forall_mem_append.2 ⟨List.forall_mem_map.2 (captures_of_groupItems 0 es),
      List.forall_mem_singleton.2 ⟨_, _, rfl⟩⟩
  refine ⟨?_, ?_, ?_⟩
  · have hbranch : c.node.branches[k]? = some (.capture (captures + 1) e.group.whole.node) := by
      rw [← hwholeNode, hwhole, Node.branches_ofBranches (by simp) hcaptures,
        List.getElem?_append_left (by
          rw [List.length_map]
          exact (List.getElem?_eq_some_iff.1 hitem).1), List.getElem?_map, hitem,
        Option.map_some, hitemNode]
    rw [part?, hbranch]
  · have hle : e.group.whole.depth + 1 ≤ r.group.whole.depth := hdepth _ hmem
    omega
  · rw [hwhole] at hfits
    exact Engine.fits_of_branch (List.mem_append_left _
      (hitemNode ▸ List.mem_map_of_mem (f := Item.node) hmem)) hfits

/-- Where white space does not count, what stands for a rule is what its pattern stands for with a
newline after it: the same as without, unless flags within the pattern make white space count at its
end. -/
theorem part?_of_ignoreWhitespace (h : ofRules rules message flags = .ok c)
    (hx : flags.ignoreWhitespace = true) {k : Nat} {r : Rule} (hr : c.rules[k]? = some r) :
    ∃ e n part, endOf? flags.mode r.pattern.toList = some e ∧ nodeOf flags r.pattern = .ok n ∧
      c.part? k = some part ∧ nodeOf flags (r.pattern ++ "\n") = .ok part ∧
      n = e.group.whole.node ∧ part = e.group.afterNewline.whole.node ∧
      (e.group.mode.ignoreWhitespace = true →
        ∀ before text, part.match? before text = n.match? before text) := by
  obtain ⟨-, rfl, rfl, -, halone⟩ := of_ofRules h
  have hown : ∀ p ∈ c.rules.map (·.pattern),
      ∃ e, Reads (.start c.flags.mode) (c.flags.mode.skip p.toList) e [] ∧ e.outer = [] :=
    List.forall_mem_map.2 fun r hr => by
      obtain ⟨n, hn, -⟩ := halone r hr
      obtain ⟨e, hreads, houter, -⟩ := reads_of_ofText (ofText_of_nodeOf hn)
      exact ⟨e, hreads, houter⟩
  obtain ⟨es, hes⟩ := exists_forall₂ hown
  have hencloses : List.Forall₂ (Encloses c.flags) (c.rules.map (·.pattern))
      (es.map Reading.afterNewline) :=
    List.forall₂_map_right_iff.2 (hes.imp fun _ _ he => (reads_separator hx he.1 he.2).1)
  -- the reading of the rule's pattern, and its node
  obtain ⟨e, he, hreads, houter⟩ : ∃ e, es[k]? = some e ∧
      Reads (.start c.flags.mode) (c.flags.mode.skip r.pattern.toList) e [] ∧ e.outer = [] :=
    exists_getElem?_of_forall₂ hes (by rw [List.getElem?_map, hr, Option.map_some])
  obtain ⟨n, hn, hsilent⟩ := halone r (List.mem_of_getElem? hr)
  obtain ⟨e', hreads', -, rfl⟩ := reads_of_ofText (ofText_of_nodeOf hn)
  obtain rfl := hreads.unique hreads'
  have hafter : e.afterNewline.group.whole.node.Silent := OpenGroup.whole_captures
    (OpenGroup.afterNewline_captures (OpenGroup.captures_of_whole hsilent))
  obtain ⟨hpart, hdepth, hfits⟩ := part?_of_encloses h hencloses
    (show (es.map Reading.afterNewline)[k]? = some e.afterNewline by
      rw [List.getElem?_map, he, Option.map_some]) hafter
  have hseparated : Node.ofText c.flags.mode (r.pattern ++ "\n").toList
      = .ok e.afterNewline.group.whole.node := by
    have htext : (r.pattern ++ "\n").toList = r.pattern.toList ++ ['\n'] := String.toList_append
    rw [htext, ofText_of_reads (reads_separator hx hreads houter).2,
      if_neg (not_not.2 (show e.afterNewline.outer = [] from houter)),
      if_neg (Nat.not_lt.2 hdepth), if_pos hfits]
  refine ⟨e, _, _, endOf?_eq_some_iff.2 hreads, hn, hpart, by rw [nodeOf, readNode, hseparated],
    rfl, rfl, fun hblank before text => ?_⟩
  rw [Reading.afterNewline, OpenGroup.afterNewline_of_ignoreWhitespace hblank]

end Parts

open scoped Unicode

/-- The newline ends the comment and is blank itself. -/
theorem part?_remarkContext :
    ofRules remarkRules "unexpected character" { ignoreWhitespace := true } = .ok remarkContext ∧
    ∃ n, nodeOf { ignoreWhitespace := true } "0 # number" = .ok n ∧
      nodeOf { ignoreWhitespace := true } "0 # number\n" = .ok n ∧ remarkContext.part? 1 = some n ∧
      n.match? none ['0', '1'] = some ['0'] := by
  have h : ofRules remarkRules "unexpected character" { ignoreWhitespace := true }
      = .ok remarkContext := by rfl
  obtain ⟨e, n, part, he, hn, hpart, hseparated, rfl, rfl, -⟩ :=
    part?_of_ignoreWhitespace h rfl (k := 1) (r := .token "0 # number" "number" (.name "main")) rfl
  have hblank : (endOf? (Flags.mode { ignoreWhitespace := true }) "0 # number".toList).map
      (·.group.mode.ignoreWhitespace) = some true := by rfl
  rw [show endOf? (Flags.mode { ignoreWhitespace := true }) "0 # number".toList = some e from he,
    Option.map_some, Option.some.injEq] at hblank
  rw [OpenGroup.afterNewline_of_ignoreWhitespace hblank] at hpart hseparated
  have hliteral : remarkContext.part? 1 = some (.literal ['0']) := by rfl
  refine ⟨h, _, hn, hseparated, hpart, ?_⟩
  rw [Option.some.inj (hpart.symm.trans hliteral)]
  rfl

-- the flag within the pattern makes the newline count, so that it is matched after the `a`
example : ((ofRules [.token "(?-x)a" "a" (.name "main")] "" { ignoreWhitespace := true }).map
    fun c => c.part? 0).toOption = some (some (.literal ['a', '\n'])) := by rfl

end Context

end ModalLex
