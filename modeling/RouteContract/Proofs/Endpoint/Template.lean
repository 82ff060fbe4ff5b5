import Mathlib.Data.List.TakeWhile
import RouteContract.Endpoint.Template
import RouteContract.Proofs.Text.Split

/-!
Placeholders and template expressions. A placeholder is a whole segment of a path, in braces, and is
named by what stands before a colon. A template expression is the text between an opening brace and
the next closing brace, wherever the two stand. The parameters of a path are its template
expressions, in order and each once, if and only if every template expression is a segment of its
own, is not empty and has no colon.
-/

namespace RouteContract.Template

/-- What a segment names as a parameter. Nothing is said here about segments in braces with further
braces before a colon. -/
inductive Names : String → Option String → Prop
  | text {segment : String} (h : ∀ inner, segment ≠ "\x7b" ++ inner ++ "\x7d") : Names segment none
  | unnamed : Names "\x7b\x7d" none
  | unnamedConstraint (constraint : String) : Names ("\x7b:" ++ constraint ++ "\x7d") none
  | parameter {name : String} (hne : name ≠ "")
      (hplain : ∀ c ∈ name.toList, c ≠ '\x7b' ∧ c ≠ '\x7d' ∧ c ≠ ':') :
      Names ("\x7b" ++ name ++ "\x7d") (some name)
  | constrained {name : String} (constraint : String) (hne : name ≠ "")
      (hplain : ∀ c ∈ name.toList, c ≠ '\x7b' ∧ c ≠ '\x7d' ∧ c ≠ ':') :
      Names ("\x7b" ++ name ++ ":" ++ constraint ++ "\x7d") (some name)

theorem stripLead?_singleton {l : Char} {cs rest : List Char} :
    Text.stripLead? [l] cs = some rest ↔ cs = l :: rest := by
  cases cs with
  | nil => simp [Text.stripLead?]
  | cons c cs =>
    rw [Text.stripLead?, List.cons.injEq]
    by_cases hc : l = c
    · simp [hc, Text.stripLead?]
    · simp [hc, Ne.symm hc]

theorem dropLead?_singleton {l : Char} {s rest : String} :
    Text.dropLead? (String.singleton l) s = some rest ↔ s.toList = l :: rest.toList := by
  rw [Text.dropLead?, String.toList_singleton, Option.map_eq_some_iff]
  constructor
  · rintro ⟨chars, hchars, rfl⟩
    rw [stripLead?_singleton.mp hchars, String.toList_ofList]
  · intro h
    exact ⟨rest.toList, stripLead?_singleton.mpr h, String.ofList_toList⟩

theorem dropTail?_singleton {l : Char} {s rest : String} :
    Text.dropTail? (String.singleton l) s = some rest ↔ s.toList = rest.toList ++ [l] := by
  rw [Text.dropTail?, String.toList_singleton, List.reverse_singleton, Option.map_eq_some_iff]
  constructor
  · rintro ⟨chars, hchars, rfl⟩
    rw [String.toList_ofList, ← List.reverse_inj, stripLead?_singleton.mp hchars]
    simp
  · intro h
    refine ⟨rest.toList.reverse, stripLead?_singleton.mpr ?_, ?_⟩
    · rw [h, List.reverse_append, List.reverse_singleton, List.singleton_append]
    · rw [List.reverse_reverse, String.ofList_toList]

/-- A placeholder is a segment in braces with a name before the first colon. -/
theorem placeholder?_eq_some_iff {segment name : String} :
    placeholder? segment = some name ↔ ∃ inner, segment.toList = '\x7b' :: (inner ++ ['\x7d']) ∧
      name.toList = inner.takeWhile (· != ':') ∧ name ≠ "" := by
  rw [placeholder?]
  simp only [Option.bind_eq_bind, Option.bind_eq_some_iff]
  constructor
  · rintro ⟨tail, htail, inner, hinner, hname⟩
    rw [show "\x7b" = String.singleton '\x7b' from rfl, dropLead?_singleton] at htail
    rw [show "\x7d" = String.singleton '\x7d' from rfl, dropTail?_singleton] at hinner
    split at hname
    · cases hname
    · next hne =>
      cases hname
      refine ⟨inner.toList, by rw [htail, hinner], String.toList_ofList, ?_⟩
      intro hempty
      exact hne (String.isEmpty_iff.mpr hempty)
  · rintro ⟨inner, hsegment, hname, hne⟩
    refine ⟨String.ofList (inner ++ ['\x7d']), ?_, String.ofList inner, ?_, ?_⟩
    · rw [show "\x7b" = String.singleton '\x7b' from rfl, dropLead?_singleton, hsegment,
        String.toList_ofList]
    · rw [show "\x7d" = String.singleton '\x7d' from rfl, dropTail?_singleton,
        String.toList_ofList, String.toList_ofList]
    · rw [String.toList_ofList, ← hname, String.ofList_toList]
      exact if_neg fun hempty => hne (String.isEmpty_iff.mp hempty)

theorem takeWhile_of_unconstrained {cs : List Char} (h : ':' ∉ cs) :
    cs.takeWhile (· != ':') = cs := by
  apply List.takeWhile_eq_self_iff.mpr
  intro c hc
  exact bne_iff_ne.mpr fun heq => h (heq ▸ hc)

theorem placeholder?_of_names {segment : String} {answer : Option String}
    (h : Names segment answer) : placeholder? segment = answer := by
  have hnone (inner : List Char) (hsegment : segment.toList = '\x7b' :: (inner ++ ['\x7d']))
      (hempty : inner.takeWhile (· != ':') = []) : placeholder? segment = none := by
    apply Option.eq_none_iff_forall_ne_some.mpr
    intro name hname
    obtain ⟨other, hother, hchars, hne⟩ := placeholder?_eq_some_iff.mp hname
    rw [hsegment, List.cons.injEq, List.append_cancel_right_eq] at hother
    rw [← hother.2, hempty, String.toList_eq_nil_iff] at hchars
    exact hne hchars
  cases h with
  | text h =>
    apply Option.eq_none_iff_forall_ne_some.mpr
    intro name hname
    obtain ⟨inner, hinner, -⟩ := placeholder?_eq_some_iff.mp hname
    apply h (String.ofList inner)
    apply String.toList_inj.mp
    simpa using hinner
  | unnamed => exact hnone [] rfl rfl
  | unnamedConstraint constraint =>
    refine hnone (':' :: constraint.toList) ?_ ?_
    · simp
    · simp
  | @parameter name hne hplain =>
    refine placeholder?_eq_some_iff.mpr ⟨name.toList, by simp, ?_, hne⟩
    exact (takeWhile_of_unconstrained fun hcolon => (hplain _ hcolon).2.2 rfl).symm
  | @constrained name constraint hne hplain =>
    refine placeholder?_eq_some_iff.mpr ⟨name.toList ++ ':' :: constraint.toList, ?_, ?_, hne⟩
    · simp
    · rw [List.takeWhile_append_of_pos fun c hc => bne_iff_ne.mpr (hplain c hc).2.2]
      simp

/-- A segment stands at the beginning of a path or behind a slash. -/
def Starts (before : List Char) : Prop := before = [] ∨ before.getLast? = some '/'

/-- A segment stands at the end of a path or in front of a slash. -/
def Ends (after : List Char) : Prop := after = [] ∨ after.head? = some '/'

instance (before : List Char) : Decidable (Starts before) := inferInstanceAs (Decidable (_ ∨ _))

instance (after : List Char) : Decidable (Ends after) := inferInstanceAs (Decidable (_ ∨ _))

/-- A template expression where it stands in a path. -/
structure Expression where
  before : List Char
  text : List Char
  after : List Char
  deriving DecidableEq, Repr

/-- The template expressions in the characters behind `before`. If a brace has been opened, its text
so far is known. -/
def expressionsFrom (before : List Char) : Option (List Char) → List Char → List Expression
  | _, [] => []
  | none, c :: rest =>
    if c = '\x7b' then expressionsFrom before (some []) rest
    else expressionsFrom (before ++ [c]) none rest
  | some text, c :: rest =>
    if c = '\x7d' then
      ⟨before, text, rest⟩ :: expressionsFrom (before ++ '\x7b' :: (text ++ ['\x7d'])) none rest
    else expressionsFrom before (some (text ++ [c])) rest

/-- The template expressions of a path, in order. -/
def expressions (path : String) : List Expression := expressionsFrom [] none path.toList

namespace Expression

/-- The expression is a segment of its path. -/
structure IsSegment (x : Expression) : Prop where
  starts : Starts x.before
  ends : Ends x.after
  inside : '/' ∉ x.text

/-- The expression is a segment and, as it stands, the name of a parameter. -/
structure IsParameter (x : Expression) : Prop extends x.IsSegment where
  named : x.text ≠ []
  unconstrained : ':' ∉ x.text

/-- An expression in front of more of the path. -/
def followedBy (more : List Char) (x : Expression) : Expression :=
  { x with after := x.after ++ more }

variable (x : Expression) (more : List Char)

@[simp] theorem before_followedBy : (x.followedBy more).before = x.before := rfl

@[simp] theorem text_followedBy : (x.followedBy more).text = x.text := rfl

@[simp] theorem after_followedBy : (x.followedBy more).after = x.after ++ more := rfl

end Expression

variable {before cs text u w piece rest : List Char} {opened : Option (List Char)}

theorem expressionsFrom_of_no_close (h : '\x7d' ∉ cs) : expressionsFrom before opened cs = [] := by
  induction cs generalizing before opened with
  | nil => cases opened <;> rfl
  | cons c rest ih =>
    rw [List.mem_cons, not_or] at h
    cases opened with
    | none =>
      rw [expressionsFrom]
      split
      · exact ih h.2
      · exact ih h.2
    | some text =>
      rw [expressionsFrom, if_neg (Ne.symm h.1)]
      exact ih h.2

theorem expressionsFrom_of_no_open (h : '\x7b' ∉ u) :
    expressionsFrom before none (u ++ rest) = expressionsFrom (before ++ u) none rest := by
  induction u generalizing before with
  | nil => rw [List.nil_append, List.append_nil]
  | cons c u ih =>
    rw [List.mem_cons, not_or] at h
    rw [List.cons_append, expressionsFrom, if_neg (Ne.symm h.1), ih h.2, List.append_assoc,
      List.singleton_append]

/-- An opened brace is closed by the next closing brace. -/
theorem expressionsFrom_of_close (h : '\x7d' ∉ w) :
    expressionsFrom before (some text) (w ++ '\x7d' :: rest) = ⟨before, text ++ w, rest⟩ ::
      expressionsFrom (before ++ '\x7b' :: (text ++ w ++ ['\x7d'])) none rest := by
  induction w generalizing text with
  | nil => rw [List.nil_append, expressionsFrom, if_pos rfl, List.append_nil]
  | cons c w ih =>
    rw [List.mem_cons, not_or] at h
    rw [List.cons_append, expressionsFrom, if_neg (Ne.symm h.1), ih h.2, List.append_assoc,
      List.singleton_append]

/-- The characters that have been read since a brace was opened. -/
def openedChars : Option (List Char) → List Char
  | none => []
  | some text => '\x7b' :: text

/-- If no expression runs over a slash, those of a segment and those behind it are found apart. -/
theorem expressionsFrom_segment (hpiece : '/' ∉ piece)
    (h : ∀ x ∈ expressionsFrom before opened (piece ++ '/' :: rest), '/' ∉ x.text) :
    expressionsFrom before opened (piece ++ '/' :: rest) =
      (expressionsFrom before opened piece).map (·.followedBy ('/' :: rest)) ++
        expressionsFrom (before ++ openedChars opened ++ piece ++ ['/']) none rest := by
  induction piece generalizing before opened with
  | nil =>
    cases opened with
    | none => simp [expressionsFrom, openedChars]
    | some text =>
      have hslash : expressionsFrom before (some text) ('/' :: rest) =
          expressionsFrom before (some (text ++ ['/'])) rest := if_neg (by decide)
      rw [List.nil_append, hslash] at h ⊢
      -- A brace that is still open at the slash must stay open.
      have hclose : '\x7d' ∉ rest := by
        intro hmem
        obtain ⟨w, more, rfl, hw⟩ := List.eq_append_cons_of_mem hmem
        rw [expressionsFrom_of_close hw] at h
        exact h _ List.mem_cons_self (by simp)
      rw [expressionsFrom_of_no_close hclose, expressionsFrom_of_no_close hclose]
      rfl
  | cons c piece ih =>
    rw [List.mem_cons, not_or] at hpiece
    cases opened with
    | none =>
      rw [List.cons_append, expressionsFrom] at h ⊢
      rw [expressionsFrom]
      split
      · next hopen =>
        rw [if_pos hopen] at h
        rw [ih hpiece.2 h]
        simp [openedChars, hopen]
      · next hopen =>
        rw [if_neg hopen] at h
        rw [ih hpiece.2 h]
        simp [openedChars]
    | some text =>
      rw [List.cons_append, expressionsFrom] at h ⊢
      rw [expressionsFrom]
      split
      · next hclose =>
        rw [if_pos hclose, List.forall_mem_cons] at h
        rw [ih hpiece.2 h.2]
        simp [openedChars, hclose, Expression.followedBy]
      · next hclose =>
        rw [if_neg hclose] at h
        rw [ih hpiece.2 h]
        simp [openedChars]

/-- The name that the characters of a segment stand for. -/
def named? (piece : List Char) : Option (List Char) :=
  (placeholder? (String.ofList piece)).map String.toList

theorem named?_eq_some_iff {name : List Char} :
    named? piece = some name ↔ ∃ inner, piece = '\x7b' :: (inner ++ ['\x7d']) ∧
      name = inner.takeWhile (· != ':') ∧ name ≠ [] := by
  rw [named?, Option.map_eq_some_iff]
  constructor
  · rintro ⟨other, hother, rfl⟩
    obtain ⟨inner, hpiece, hname, hne⟩ := placeholder?_eq_some_iff.mp hother
    refine ⟨inner, String.toList_ofList.symm.trans hpiece, hname, ?_⟩
    exact fun hempty => hne (String.toList_eq_nil_iff.mp hempty)
  · rintro ⟨inner, rfl, hname, hne⟩
    refine ⟨String.ofList name, ?_, String.toList_ofList⟩
    refine placeholder?_eq_some_iff.mpr ⟨inner, String.toList_ofList, ?_, ?_⟩
    · rw [String.toList_ofList, hname]
    · intro hempty
      apply hne
      rw [← String.toList_ofList (l := name), hempty]
      rfl

theorem exists_expression_of_named? {name : List Char} (h : named? piece = some name) :
    ∃ x xs, expressionsFrom before none piece = x :: xs := by
  obtain ⟨inner, rfl, -⟩ := named?_eq_some_iff.mp h
  have hclose : '\x7d' ∈ inner ++ ['\x7d'] := by simp
  obtain ⟨w, more, hsplit, hw⟩ := List.eq_append_cons_of_mem hclose
  rw [expressionsFrom, if_pos rfl, hsplit, expressionsFrom_of_close hw]
  exact ⟨_, _, rfl⟩

/-- A segment stands for at most as many names as it has template expressions. -/
theorem length_named?_le (piece before : List Char) :
    (named? piece).toList.length ≤ (expressionsFrom before none piece).length := by
  cases h : named? piece with
  | none => exact Nat.zero_le _
  | some name =>
    obtain ⟨x, xs, hxs⟩ := exists_expression_of_named? h
    rw [hxs, List.length_cons]
    exact Nat.succ_le_succ (Nat.zero_le _)

theorem named?_eq_none (h : expressionsFrom before none piece = []) : named? piece = none := by
  have hlength := length_named?_le piece before
  rw [h, List.length_nil, Nat.le_zero, List.length_eq_zero_iff] at hlength
  exact Option.toList_eq_nil_iff.mp hlength

theorem exists_braces (h : expressionsFrom before none piece ≠ []) :
    ∃ u w rest, piece = u ++ '\x7b' :: (w ++ '\x7d' :: rest) ∧ '\x7b' ∉ u ∧ '\x7d' ∉ w := by
  have hopen : '\x7b' ∈ piece := by
    by_contra hopen
    apply h
    rw [← List.append_nil piece, expressionsFrom_of_no_open hopen]
    rfl
  obtain ⟨u, v, rfl, hu⟩ := List.eq_append_cons_of_mem hopen
  have hclose : '\x7d' ∈ v := by
    by_contra hclose
    apply h
    rw [expressionsFrom_of_no_open hu, expressionsFrom, if_pos rfl]
    exact expressionsFrom_of_no_close hclose
  obtain ⟨w, rest, rfl, hw⟩ := List.eq_append_cons_of_mem hclose
  exact ⟨u, w, rest, rfl, hu, hw⟩

/-- A segment stands for the text of its first template expression only if there is nothing else in
the segment. -/
theorem eq_nil_of_named? (hu : '\x7b' ∉ u)
    (h : named? (u ++ '\x7b' :: (w ++ '\x7d' :: rest)) = some w) : u = [] ∧ rest = [] := by
  obtain ⟨inner, hpiece, hname, -⟩ := named?_eq_some_iff.mp h
  cases u with
  | cons c u =>
    rw [List.cons_append, List.cons.injEq] at hpiece
    exact absurd (hpiece.1 ▸ List.mem_cons_self) hu
  | nil =>
    rw [List.nil_append, List.cons.injEq] at hpiece
    refine ⟨rfl, ?_⟩
    rcases List.eq_nil_or_concat' rest with hrest | ⟨body, last, rfl⟩
    · exact hrest
    · -- The name would go on behind the closing brace.
      have hinner : w ++ '\x7d' :: body = inner := by
        have hsplit : (w ++ '\x7d' :: body) ++ [last] = inner ++ ['\x7d'] := by
          rw [← hpiece.2]
          simp
        exact (List.append_inj' hsplit rfl).1
      have hplain : ∀ c ∈ w, (c != ':') = true := by
        intro c hc
        exact List.mem_takeWhile_imp (p := (· != ':')) (hname ▸ hc)
      rw [← hinner, List.takeWhile_append_of_pos hplain,
        List.takeWhile_cons_of_pos (by decide)] at hname
      have hlength := congrArg List.length hname
      rw [List.length_append, List.length_cons] at hlength
      omega

theorem named?_braced (hw : w ≠ []) (hplain : ':' ∉ w) :
    named? ('\x7b' :: (w ++ ['\x7d'])) = some w :=
  named?_eq_some_iff.mpr ⟨w, rfl, (takeWhile_of_unconstrained hplain).symm, hw⟩

/-- A segment stands for the texts of its template expressions if and only if these are
parameters. -/
theorem named?_eq_texts_iff {after : List Char} (hbefore : Starts before) (hafter : Ends after)
    (hpiece : '/' ∉ piece) :
    (named? piece).toList = (expressionsFrom before none piece).map (·.text) ↔
      ∀ x ∈ expressionsFrom before none piece, (x.followedBy after).IsParameter := by
  by_cases hnone : expressionsFrom before none piece = []
  · rw [named?_eq_none hnone, hnone]
    exact ⟨fun _ x hx => absurd hx List.not_mem_nil, fun _ => rfl⟩
  obtain ⟨u, w, rest, rfl, hu, hw⟩ := exists_braces hnone
  have hfound : expressionsFrom before none (u ++ '\x7b' :: (w ++ '\x7d' :: rest)) =
      ⟨before ++ u, w, rest⟩ ::
        expressionsFrom (before ++ u ++ '\x7b' :: (w ++ ['\x7d'])) none rest := by
    rw [expressionsFrom_of_no_open hu, expressionsFrom, if_pos rfl, expressionsFrom_of_close hw,
      List.nil_append]
  rw [hfound, List.map_cons, List.forall_mem_cons]
  constructor
  · intro hnames
    have hsome : named? (u ++ '\x7b' :: (w ++ '\x7d' :: rest)) = some w := by
      cases hname : named? (u ++ '\x7b' :: (w ++ '\x7d' :: rest)) with
      | none =>
        rw [hname] at hnames
        cases hnames
      | some name =>
        rw [hname, Option.toList_some, List.cons.injEq] at hnames
        rw [hnames.1]
    obtain ⟨rfl, rfl⟩ := eq_nil_of_named? hu hsome
    obtain ⟨inner, hinner, hname, hne⟩ := named?_eq_some_iff.mp hsome
    refine ⟨?_, fun x hx => absurd hx List.not_mem_nil⟩
    refine { starts := ?_, ends := ?_, inside := ?_, named := hne, unconstrained := ?_ }
    · rw [Expression.before_followedBy, List.append_nil]
      exact hbefore
    · exact hafter
    · intro hslash
      rw [Expression.text_followedBy] at hslash
      exact hpiece (by simp [hslash])
    · intro hcolon
      rw [Expression.text_followedBy, hname] at hcolon
      exact absurd (List.mem_takeWhile_imp hcolon) (by decide)
  · rintro ⟨hparameter, -⟩
    have hu : u = [] := by
      rcases List.eq_nil_or_concat' u with hu | ⟨body, last, rfl⟩
      · exact hu
      · exfalso
        rcases hparameter.starts with hstart | hstart
        · simp at hstart
        · dsimp only [Expression.before_followedBy] at hstart
          rw [← List.append_assoc, List.getLast?_concat, Option.some.injEq] at hstart
          exact hpiece (by simp [hstart])
    have hrest : rest = [] := by
      cases rest with
      | nil => rfl
      | cons c rest =>
        exfalso
        rcases hparameter.ends with hend | hend
        · cases hend
        · rw [Expression.after_followedBy, List.cons_append, List.head?_cons,
            Option.some.injEq] at hend
          exact hpiece (by simp [hend])
    subst hu hrest
    have hname : named? ('\x7b' :: (w ++ ['\x7d'])) = some w :=
      named?_braced hparameter.named hparameter.unconstrained
    rw [List.nil_append, hname]
    rfl

/-- The names that the segments of a path stand for. -/
def names (pieces : List (List Char)) : List (List Char) :=
  pieces.flatMap fun piece => (named? piece).toList

theorem names_cons (piece : List Char) (pieces : List (List Char)) :
    names (piece :: pieces) = (named? piece).toList ++ names pieces :=
  List.flatMap_cons

theorem parameters_eq (path : String) :
    parameters path = (names (Text.splitChars '/' path.toList)).map String.ofList := by
  rw [parameters, segments, Text.split, List.filterMap_map, names,
    ← List.filterMap_eq_flatMap_toList, List.map_filterMap]
  apply List.filterMap_congr
  intro piece _
  simp [named?, Function.comp_def]

theorem not_mem_names {pieces : List (List Char)} (hpieces : ∀ piece ∈ pieces, '/' ∉ piece)
    {name : List Char} (h : name ∈ names pieces) : '/' ∉ name := by
  obtain ⟨piece, hpiece, hname⟩ := List.mem_flatMap.mp h
  obtain ⟨inner, rfl, rfl, -⟩ := named?_eq_some_iff.mp (Option.mem_toList.mp hname)
  intro hslash
  have hinner : '/' ∈ inner := (List.takeWhile_sublist _).subset hslash
  exact hpieces _ hpiece (by simp [hinner])

theorem map_text_followedBy (xs : List Expression) (after : List Char) :
    (xs.map (·.followedBy after)).map (·.text) = xs.map (·.text) := by
  rw [List.map_map]
  rfl

theorem intercalate_cons_cons (piece next : List Char) (pieces : List (List Char)) :
    ['/'].intercalate (piece :: next :: pieces) =
      piece ++ '/' :: ['/'].intercalate (next :: pieces) := by
  simp [List.intercalate]

/-- If no template expression runs over a slash, a path has at most as many parameters as template
expressions. -/
theorem length_names_le (piece : List Char) (pieces : List (List Char))
    (hpieces : ∀ other ∈ piece :: pieces, '/' ∉ other)
    (h : ∀ x ∈ expressionsFrom before none (['/'].intercalate (piece :: pieces)), '/' ∉ x.text) :
    (names (piece :: pieces)).length ≤
      (expressionsFrom before none (['/'].intercalate (piece :: pieces))).length := by
  induction pieces generalizing piece before with
  | nil =>
    rw [names, List.flatMap_singleton, List.intercalate_singleton]
    exact length_named?_le piece before
  | cons next pieces ih =>
    rw [List.forall_mem_cons] at hpieces
    rw [intercalate_cons_cons] at h ⊢
    have hfound := expressionsFrom_segment hpieces.1 h
    rw [hfound] at h ⊢
    have hfirst := length_named?_le piece before
    have hrest := ih next hpieces.2 fun x hx => h x (List.mem_append_right _ hx)
    rw [names_cons, List.length_append, List.length_append, List.length_map]
    exact Nat.add_le_add hfirst hrest

/-- The segments of a path stand for the texts of its template expressions if and only if these are
parameters. -/
theorem names_eq_texts_iff (piece : List Char) (pieces : List (List Char))
    (hbefore : Starts before) (hpieces : ∀ other ∈ piece :: pieces, '/' ∉ other) :
    names (piece :: pieces) =
        (expressionsFrom before none (['/'].intercalate (piece :: pieces))).map (·.text) ↔
      ∀ x ∈ expressionsFrom before none (['/'].intercalate (piece :: pieces)),
        x.IsParameter := by
  induction pieces generalizing piece before with
  | nil =>
    have hpiece := hpieces piece List.mem_cons_self
    have hiff := named?_eq_texts_iff hbefore (Or.inl rfl : Ends []) hpiece
    simpa [names, Expression.followedBy] using hiff
  | cons next pieces ih =>
    have hpiece := hpieces piece List.mem_cons_self
    have hothers : ∀ other ∈ next :: pieces, '/' ∉ other :=
      fun other hother => hpieces other (List.mem_cons_of_mem _ hother)
    have hstarts : Starts (before ++ openedChars none ++ piece ++ ['/']) :=
      Or.inr List.getLast?_concat
    have hrest := ih next hstarts hothers
    have hrestLength :=
      @length_names_le (before ++ openedChars none ++ piece ++ ['/']) next pieces hothers
    rw [intercalate_cons_cons]
    generalize ['/'].intercalate (next :: pieces) = tail at hrest hrestLength ⊢
    have hfirst := named?_eq_texts_iff hbefore (Or.inr rfl : Ends ('/' :: tail)) hpiece
    have hfirstLength := length_named?_le piece before
    -- On either side of the claim no template expression runs over a slash, so that the expressions
    -- of the first segment can be told from the others.
    have hapart (hslash : ∀ x ∈ expressionsFrom before none (piece ++ '/' :: tail), '/' ∉ x.text) :
        names (piece :: next :: pieces) =
            (expressionsFrom before none (piece ++ '/' :: tail)).map (·.text) ↔
          ∀ x ∈ expressionsFrom before none (piece ++ '/' :: tail), x.IsParameter := by
      have hfound := expressionsFrom_segment hpiece hslash
      have hlength := hrestLength fun x hx => hslash x (hfound ▸ List.mem_append_right _ hx)
      rw [hfound, List.map_append, map_text_followedBy, List.forall_mem_append,
        List.forall_mem_map, ← hfirst, ← hrest]
      constructor
      · intro heq
        rw [names_cons] at heq
        refine List.append_inj heq ?_
        have hlengths := congrArg List.length heq
        rw [List.length_append, List.length_append, List.length_map, List.length_map] at hlengths
        rw [List.length_map]
        omega
      · rintro ⟨hpieceTexts, hrestTexts⟩
        rw [names_cons, hpieceTexts, hrestTexts]
    constructor
    · intro heq
      refine (hapart ?_).mp heq
      intro x hx
      exact not_mem_names hpieces (heq ▸ List.mem_map_of_mem hx)
    · intro hall
      exact (hapart fun x hx => (hall x hx).inside).mpr hall

/-- The parameters of a path are its template expressions, in order and each once, if and only if
every template expression is a parameter. -/
theorem parameters_eq_texts_iff (path : String) :
    parameters path = (expressions path).map (fun x => String.ofList x.text) ↔
      ∀ x ∈ expressions path, x.IsParameter := by
  have hjoin : ['/'].intercalate (Text.splitChars '/' path.toList) = path.toList := by
    rw [Text.splitChars_eq_splitOn]
    exact List.intercalate_splitOn '/'
  have hpieces : ∀ piece ∈ Text.splitChars '/' path.toList, '/' ∉ piece :=
    fun _ => Text.not_mem_of_mem_splitChars
  have htexts : parameters path = (expressions path).map (fun x => String.ofList x.text) ↔
      names (Text.splitChars '/' path.toList) = (expressions path).map (·.text) := by
    have hmap : (expressions path).map (fun x => String.ofList x.text) =
        ((expressions path).map (·.text)).map String.ofList := by
      rw [List.map_map]
      rfl
    rw [parameters_eq, hmap]
    exact (List.map_injective_iff.mpr fun _ _ => String.ofList_injective).eq_iff
  rw [htexts, expressions]
  cases hsplit : Text.splitChars '/' path.toList with
  | nil =>
    rw [Text.splitChars_eq_splitOn] at hsplit
    exact absurd hsplit (List.splitOn_ne_nil '/' _)
  | cons piece pieces =>
    rw [hsplit] at hjoin hpieces
    rw [← hjoin]
    exact names_eq_texts_iff piece pieces (Or.inl rfl) hpieces

/-- Template expressions stand where they say, and are closed by the next closing brace. -/
theorem eq_of_mem_expressionsFrom {x : Expression} (hopened : '\x7d' ∉ openedChars opened)
    (h : x ∈ expressionsFrom before opened cs) :
    before ++ openedChars opened ++ cs = x.before ++ '\x7b' :: (x.text ++ '\x7d' :: x.after) ∧
      '\x7d' ∉ x.text := by
  induction cs generalizing before opened with
  | nil => cases opened <;> cases h
  | cons c rest ih =>
    cases opened with
    | none =>
      rw [expressionsFrom] at h
      split at h
      · next hopen =>
        have hfound := ih (by decide) h
        simpa [openedChars, hopen] using hfound
      · have hfound := ih (by decide) h
        simpa [openedChars] using hfound
    | some text =>
      rw [openedChars, List.mem_cons, not_or] at hopened
      rw [expressionsFrom] at h
      split at h
      · next hclose =>
        rcases List.mem_cons.mp h with rfl | h
        · exact ⟨by simp [openedChars, hclose], hopened.2⟩
        · have hfound := ih (by decide) h
          simpa [openedChars, hclose] using hfound
      · next hclose =>
        have hfound := ih (by simp [openedChars, hopened.2, Ne.symm hclose]) h
        simpa [openedChars] using hfound

end RouteContract.Template
