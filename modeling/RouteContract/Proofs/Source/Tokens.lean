import Mathlib.Tactic
import RouteContract.Source.Token.Lexer

/-!
Texts that are read part by part. A part of a text is read as trees if, wherever it stands and
whatever groups are open there, the reading goes on behind it with these trees. What follows a part
counts, since a name or a number ends only where something else begins; the place of a part does
not, except that words carry it.
-/

namespace RouteContract.Source

open Text

mutual

/-- A tree with its words at the start of the text. -/
def Tree.unplaced : Tree → Tree
  | .word name _ => .word name .start
  | .mark char joint => .mark char joint
  | .literal value => .literal value
  | .lifetime => .lifetime
  | .group d inner => .group d (treesUnplaced inner)

def treesUnplaced : List Tree → List Tree
  | [] => []
  | t :: ts => t.unplaced :: treesUnplaced ts

end

theorem treesUnplaced_append (ts us : List Tree) :
    treesUnplaced (ts ++ us) = treesUnplaced ts ++ treesUnplaced us := by
  induction ts with
  | nil => rfl
  | cons t ts ih => rw [List.cons_append, treesUnplaced, ih, treesUnplaced, List.cons_append]

/-- The trees of a text from a place on, where groups may be open. -/
def readingFrom? (pos : Pos) (opened : Opened) (done : List Tree) (cs : List Char) :
    Option (List Tree) :=
  (pieces? pos cs).bind (assemble? opened done)

theorem pieces?_of_piece {pos : Pos} {cs rest : List Char} {p : Piece} (hcs : cs ≠ [])
    (h : piece? pos (cs ++ rest) = some (p, cs.length)) :
    pieces? pos (cs ++ rest) = (pieces? (pos.advance cs) rest).map (p :: ·) := by
  obtain ⟨c, cs, rfl⟩ := List.exists_cons_of_ne_nil hcs
  have htake : (c :: (cs ++ rest)).take (c :: cs).length = c :: cs := by
    rw [← List.cons_append, List.take_left]
  have hdrop : (cs ++ rest).drop ((c :: cs).length - 1) = rest := by
    rw [List.length_cons, Nat.add_sub_cancel, List.drop_left]
  rw [List.cons_append] at h ⊢
  rw [pieces?.eq_def]
  simp only [h, htake, hdrop]

theorem readingFrom?_of_piece {pos : Pos} {cs rest : List Char} {p : Piece} (hcs : cs ≠ [])
    (h : piece? pos (cs ++ rest) = some (p, cs.length)) (opened : Opened) (done : List Tree) :
    readingFrom? pos opened done (cs ++ rest) =
      (pieces? (pos.advance cs) rest).bind fun ps => assemble? opened done (p :: ps) := by
  rw [readingFrom?, pieces?_of_piece hcs h, Option.bind_map]
  rfl

/-- Blank characters are skipped one by one, though they make one piece together. -/
theorem readingFrom?_blank {b : Char} (hb : isTokenBlank b = true) (pos : Pos) (opened : Opened)
    (done : List Tree) (rest : List Char) :
    readingFrom? pos opened done (b :: rest) = readingFrom? (pos.step b) opened done rest := by
  have hrun {c : Char} (hc : isTokenBlank c = true) (place : Pos) (tail : List Char) :
      readingFrom? place opened done (c :: tail) =
        readingFrom? ((place.step c).advance (tail.takeWhile isTokenBlank)) opened done
          (tail.dropWhile isTokenBlank) := by
    have hsplit : c :: tail =
        (c :: tail.takeWhile isTokenBlank) ++ tail.dropWhile isTokenBlank := by
      rw [List.cons_append, List.takeWhile_append_dropWhile]
    have hpiece : piece? place (c :: tail) =
        some (.blank, (c :: tail.takeWhile isTokenBlank).length) := by
      rw [piece?, if_pos hc, List.length_cons]
    rw [hsplit] at hpiece ⊢
    rw [readingFrom?_of_piece (List.cons_ne_nil _ _) hpiece]
    rfl
  rw [hrun hb]
  cases rest with
  | nil => rfl
  | cons c rest =>
    by_cases hc : isTokenBlank c = true
    · rw [hrun hc, List.takeWhile_cons_of_pos hc, List.dropWhile_cons_of_pos hc]
      rfl
    · rw [List.takeWhile_cons_of_neg hc, List.dropWhile_cons_of_neg hc]
      rfl

/-- A part of a text is read as trees, with `rest` behind it. -/
def Reads (cs : List Char) (ts : List Tree) (rest : List Char) : Prop :=
  ∀ pos, ∃ found, treesUnplaced found = ts ∧ ∀ opened done,
    readingFrom? pos opened done (cs ++ rest) =
      readingFrom? (pos.advance cs) opened (found.reverse ++ done) rest

namespace Reads

theorem nil (rest : List Char) : Reads [] [] rest :=
  fun _ => ⟨[], rfl, fun _ _ => rfl⟩

/-- Parts are read one after the other. -/
theorem append {cs ds rest : List Char} {ts us : List Tree} (hcs : Reads cs ts (ds ++ rest))
    (hds : Reads ds us rest) : Reads (cs ++ ds) (ts ++ us) rest := by
  intro pos
  obtain ⟨first, hfirst, hread⟩ := hcs pos
  obtain ⟨second, hsecond, hread'⟩ := hds (pos.advance cs)
  refine ⟨first ++ second, ?_, fun opened done => ?_⟩
  · rw [treesUnplaced_append, hfirst, hsecond]
  · rw [List.append_assoc, hread, hread', List.reverse_append, List.append_assoc, Pos.advance,
      Pos.advance, Pos.advance, List.foldl_append]

/-- Blank characters are read as nothing. -/
theorem blank (cs : List Char) (hcs : cs.all isTokenBlank = true) (rest : List Char) :
    Reads cs [] rest := by
  induction cs with
  | nil => exact nil rest
  | cons c cs ih =>
    rw [List.all_cons, Bool.and_eq_true] at hcs
    intro pos
    obtain ⟨found, hfound, hread⟩ := ih hcs.2 (pos.step c)
    refine ⟨found, hfound, fun opened done => ?_⟩
    rw [List.cons_append, readingFrom?_blank hcs.1, hread]
    rfl

/-- A comment is read as nothing. -/
theorem comment {cs rest : List Char} (hcs : cs ≠ [])
    (h : ∀ pos, piece? pos (cs ++ rest) = some (.blank, cs.length)) : Reads cs [] rest := by
  intro pos
  refine ⟨[], rfl, fun opened done => ?_⟩
  rw [readingFrom?_of_piece hcs (h pos)]
  rfl

theorem leaf {cs rest : List Char} {t : Tree} (hcs : cs ≠ [])
    (h : ∀ pos, ∃ found, found.unplaced = t ∧
      piece? pos (cs ++ rest) = some (.leaf found, cs.length)) : Reads cs [t] rest := by
  intro pos
  obtain ⟨found, hfound, hpiece⟩ := h pos
  refine ⟨[found], ?_, fun opened done => ?_⟩
  · rw [treesUnplaced, treesUnplaced, hfound]
  · rw [readingFrom?_of_piece hcs hpiece]
    rfl

theorem word {cs rest : List Char} {name : String} (hcs : cs ≠ [])
    (h : ∀ pos, piece? pos (cs ++ rest) = some (.leaf (.word name pos), cs.length)) :
    Reads cs [.word name .start] rest :=
  leaf hcs fun pos => ⟨.word name pos, rfl, h pos⟩

theorem mark {c : Char} {joint : Bool} {rest : List Char}
    (h : ∀ pos, piece? pos (c :: rest) = some (.leaf (.mark c joint), 1)) :
    Reads [c] [.mark c joint] rest :=
  leaf (List.cons_ne_nil _ _) fun pos => ⟨.mark c joint, rfl, h pos⟩

/-- What stands between two delimiters is read by itself and makes one tree. -/
theorem group {d : Delimiter} {o c : Char} {cs rest : List Char} {ts : List Tree}
    (hopen : ∀ pos, piece? pos (o :: (cs ++ c :: rest)) = some (.opening d, 1))
    (hclose : ∀ pos, piece? pos (c :: rest) = some (.closing d, 1))
    (h : Reads cs ts (c :: rest)) : Reads (o :: (cs ++ [c])) [.group d ts] rest := by
  intro pos
  obtain ⟨found, hfound, hread⟩ := h (pos.step o)
  refine ⟨[.group d found], ?_, fun opened done => ?_⟩
  · rw [treesUnplaced, treesUnplaced, Tree.unplaced, hfound]
  · have hopened : readingFrom? pos opened done ([o] ++ (cs ++ c :: rest)) =
        readingFrom? (pos.step o) ((d, done) :: opened) [] (cs ++ c :: rest) := by
      rw [readingFrom?_of_piece (List.cons_ne_nil _ _) (hopen pos)]
      rfl
    have hclosed (place : Pos) :
        readingFrom? place ((d, done) :: opened) found.reverse ([c] ++ rest) =
          readingFrom? (place.step c) opened (.group d found :: done) rest := by
      rw [readingFrom?_of_piece (List.cons_ne_nil _ _) (hclose place)]
      simp only [assemble?, if_true, List.reverse_reverse]
      rfl
    have hplace : pos.advance (o :: (cs ++ [c])) = ((pos.step o).advance cs).step c := by
      rw [Pos.advance, List.foldl_cons, List.foldl_append]
      rfl
    rw [List.cons_append, List.append_assoc, hplace]
    have hinner := hread ((d, done) :: opened) []
    rw [List.append_nil] at hinner
    exact hopened.trans (hinner.trans (hclosed _))

end Reads

/-- Characters that begin a token which is no delimiter. -/
def startsLeaf (c : Char) : Bool :=
  !isTokenBlank c && c ∉ ['/', '(', ')', '[', ']', '\x7b', '\x7d']

theorem isPrefixOf_cons_of_ne {a c : Char} (h : c ≠ a) (as cs : List Char) :
    (a :: as).isPrefixOf (c :: cs) = false := by
  rw [List.isPrefixOf_cons_cons, beq_eq_false_iff_ne.mpr (Ne.symm h), Bool.false_and]

theorem piece?_of_startsLeaf {c : Char} (hc : startsLeaf c = true) (pos : Pos) (rest : List Char) :
    piece? pos (c :: rest) = (leaf? pos (c :: rest)).map fun (t, n) => (.leaf t, n) := by
  simp only [startsLeaf, Bool.and_eq_true, Bool.not_eq_true', decide_eq_true_eq, List.mem_cons,
    List.not_mem_nil, or_false, not_or] at hc
  obtain ⟨hblank, hslash, hleft, hright, hleft', hright', hbrace, hbrace'⟩ := hc
  have hcomment : startsComment (c :: rest) = false :=
    Bool.or_eq_false_iff.mpr
      ⟨isPrefixOf_cons_of_ne hslash _ _, isPrefixOf_cons_of_ne hslash _ _⟩
  have hlost : lostLiteral.isPrefixOf (c :: rest) = false :=
    isPrefixOf_cons_of_ne hleft "/*ERROR*/)".toList rest
  have hcode {k : Char} (h : ¬ c = k) : (c.toNat == k.toNat) = false := by
    rw [beq_eq_false_iff_ne]
    exact fun heq => h (Char.toNat_inj.mp heq)
  have hopening : (c.toNat == 0x7b) = false := hcode hbrace
  have hclosing : (c.toNat == 0x7d) = false := hcode hbrace'
  rw [piece?]
  simp only [hblank, hcomment, hlost, beq_eq_false_iff_ne.mpr hleft, beq_eq_false_iff_ne.mpr hright,
    beq_eq_false_iff_ne.mpr hleft', beq_eq_false_iff_ne.mpr hright', hopening, hclosing,
    Bool.false_eq_true, if_false]

theorem piece?_paren {c : Char} (hc : c ≠ '/') (pos : Pos) (rest : List Char) :
    piece? pos ('(' :: c :: rest) = some (.opening .paren, 1) := by
  have hlost : lostLiteral.isPrefixOf ('(' :: c :: rest) = false :=
    isPrefixOf_cons_of_ne hc "*ERROR*/)".toList rest
  rw [piece?, hlost]
  rfl

theorem Reads.paren {c : Char} {cs rest : List Char} {ts : List Tree} (hc : c ≠ '/')
    (h : Reads (c :: cs) ts (')' :: rest)) :
    Reads ('(' :: (c :: cs ++ [')'])) [.group .paren ts] rest :=
  .group (fun pos => piece?_paren hc pos _) (fun _ => rfl) h

theorem Reads.bracket {cs rest : List Char} {ts : List Tree} (h : Reads cs ts (']' :: rest)) :
    Reads ('[' :: (cs ++ [']'])) [.group .bracket ts] rest :=
  .group (fun _ => rfl) (fun _ => rfl) h

theorem Reads.literal {c : Char} {cs rest : List Char} {l : Literal} (hc : startsLeaf c = true)
    (h : literal? (c :: cs ++ rest) = some (l, (c :: cs).length)) :
    Reads (c :: cs) [.literal l] rest := by
  refine Reads.leaf (List.cons_ne_nil _ _) fun pos => ⟨.literal l, rfl, ?_⟩
  rw [List.cons_append] at h ⊢
  have hleaf : leaf? pos (c :: (cs ++ rest)) = some (.literal l, (c :: cs).length) := by
    unfold leaf?
    simp only [h]
  rw [piece?_of_startsLeaf hc, hleaf, Option.map_some]

/-- A text is read by its tokens, if nothing but tokens is at its start. -/
theorem fileTokens?_of_reads {c : Char} {cs : List Char} {ts : List Tree} (hmark : c.toNat ≠ 0xfeff)
    (hsign : c ≠ '#') (h : Reads (c :: cs) ts []) :
    ∃ found, fileTokens? (String.ofList (c :: cs)) = some found ∧ treesUnplaced found = ts := by
  obtain ⟨found, hfound, hread⟩ := h .start
  refine ⟨found, ?_, hfound⟩
  have htokens : tokens? (String.ofList (c :: cs)) = some found := by
    have hall := hread [] []
    have hend (pos : Pos) : readingFrom? pos [] found.reverse [] = some found := by
      rw [readingFrom?, pieces?.eq_def]
      simp [assemble?]
    rw [List.append_nil, List.append_nil, hend] at hall
    rw [tokens?, String.toList_ofList]
    simp only [beq_eq_false_iff_ne.mpr hmark, Bool.false_eq_true, if_false]
    exact hall
  rw [fileTokens?, String.toList_ofList]
  simp only [beq_eq_false_iff_ne.mpr hmark, Bool.false_eq_true, if_false]
  split
  · next heq => exact absurd (List.cons.inj heq).1 hsign
  · exact htokens

end RouteContract.Source
