import Mathlib.Data.List.TakeWhile
import Mathlib.Tactic
import RouteContract.Document.SourceText
import RouteContract.Proofs.Text.Digits
import RouteContract.Source.Token.Literal

/-!
Literals that are written and read again. A quoted text is read character by character: each one
stands for itself, or is an escape that denotes its code. A raw string is read up to the first quote
that is followed by as many number signs as it was opened with; since it is opened with more than
follow any quote of the text, that is the quote behind the text. A number is read by its digits.
-/

namespace RouteContract.Source

open Text

theorem digitsValue_append (base : Nat) (cs : List Char) {d : Nat} (h : d < 16) :
    digitsValue base (cs ++ [d.digitChar]) = digitsValue base cs * base + d := by
  rw [digitsValue, List.foldl_append, List.foldl_cons, List.foldl_nil, digitValue?_digitChar h,
    digitsValue]

/-- The digits of a number have its value. -/
theorem digitsValue_toDigits {base : Nat} (hbase : 1 < base) (hdigits : base ≤ 16) (n : Nat) :
    digitsValue base (Nat.toDigits base n) = n := by
  induction n using Nat.strongRecOn with
  | _ n ih =>
    rw [Nat.toDigits_eq_if hbase]
    split
    · next hsmall =>
      have hone := digitsValue_append base [] (show n < 16 by omega)
      rw [List.nil_append] at hone
      rw [hone]
      simp [digitsValue]
    · next hlarge =>
      have hdigit : n % base < 16 := lt_of_lt_of_le (Nat.mod_lt _ (by omega)) hdigits
      rw [digitsValue_append base _ hdigit, ih (n / base) (Nat.div_lt_self (by omega) hbase)]
      exact Nat.div_add_mod' n base

theorem digitChar_toNat_ne_brace {d : Nat} (h : d < 16) :
    (d.digitChar.toNat == 0x7d) = false := by
  revert d
  decide

/-- The value of digits, with the value of those before them. -/
def digitsValueFrom (base value : Nat) (cs : List Char) : Nat :=
  cs.foldl (fun n c => match digitValue? c with
    | some d => n * base + d
    | none => n) value

theorem digitsValueFrom_cons (base value : Nat) (cs : List Char) {d : Nat} (h : d < 16) :
    digitsValueFrom base value (d.digitChar :: cs) =
      digitsValueFrom base (value * base + d) cs := by
  rw [digitsValueFrom, List.foldl_cons, digitValue?_digitChar h, digitsValueFrom]

/-- A code point in hexadecimal digits is read up to the closing brace. -/
theorem codePoint?_digits {ds : List Char} (hds : ∀ c ∈ ds, ∃ d < 16, c = d.digitChar)
    (value digits : Nat) (hfew : digits + ds.length ≤ 6) (hsome : 0 < digits + ds.length)
    (hvalid : (digitsValueFrom 16 value ds).isValidChar) (rest : List Char) :
    codePoint? value digits (ds ++ '\x7d' :: rest) =
      some (digitsValueFrom 16 value ds, ds.length + 1) := by
  induction ds generalizing value digits with
  | nil =>
    have hdigits : digits > 0 := by simpa using hsome
    have hvalue : value.isValidChar := hvalid
    simp [codePoint?, hdigits, hvalue, digitsValueFrom]
  | cons c ds ih =>
    obtain ⟨d, hd, rfl⟩ := hds c List.mem_cons_self
    have hunderscore : (d.digitChar == '_') = false := by
      rw [beq_eq_false_iff_ne]
      exact Nat.digitChar_ne '_' rfl
    have hbrace : (d.digitChar.toNat == 0x7d) = false := digitChar_toNat_ne_brace hd
    rw [List.length_cons] at hfew
    have hlast : (digits == 6) = false := by
      rw [beq_eq_false_iff_ne]
      omega
    have hrest := ih (fun c hc => hds c (List.mem_cons_of_mem _ hc)) (value * 16 + d) (digits + 1)
      (by omega) (by omega)
    rw [digitsValueFrom_cons 16 value ds hd] at hvalid ⊢
    rw [List.cons_append, codePoint?, hunderscore, hbrace, digitValue?_digitChar hd]
    simp only [Bool.false_and, Bool.false_eq_true, if_false, hlast]
    rw [hrest hvalid]
    rfl

/-- How a character stands in a quoted text: as it is, or as an escape that denotes its code. -/
inductive Quoted (c : Char) : List Char → Prop
  | plain (hquote : c ≠ '"') (hbackslash : c ≠ '\\') (hreturn : c ≠ '\r') : Quoted c [c]
  | escape {b : Char} {body : List Char} (hfeed : b ≠ '\n') (hreturn : b ≠ '\r')
      (hcode : ∀ rest, escape? {} (b :: body ++ rest) = some (c.toNat, body.length + 1)) :
      Quoted c ('\\' :: b :: body)

theorem Quoted.length_pos {c : Char} {cs : List Char} (h : Quoted c cs) : 0 < cs.length := by
  cases h <;> simp

/-- The escape by the code of a character. -/
theorem escape?_code (c : Char) (rest : List Char) :
    escape? {} ('u' :: '\x7b' :: (Nat.toDigits 16 c.toNat ++ '\x7d' :: rest)) =
      some (c.toNat, (Nat.toDigits 16 c.toNat).length + 3) := by
  have hdigits : ∀ d ∈ Nat.toDigits 16 c.toNat, ∃ k < 16, d = k.digitChar :=
    fun d hd => exists_of_mem_toDigits (by decide) hd
  have hfew : (Nat.toDigits 16 c.toNat).length ≤ 6 := by
    rw [Nat.length_toDigits_le_iff (by decide) (by decide)]
    have hvalid : c.toNat.isValidChar := c.valid
    rcases hvalid with hlow | ⟨-, hhigh⟩ <;> omega
  have hpos : 0 < (Nat.toDigits 16 c.toNat).length := Nat.length_toDigits_pos
  have hvalue : digitsValueFrom 16 0 (Nat.toDigits 16 c.toNat) = c.toNat :=
    digitsValue_toDigits (by decide) (by decide) c.toNat
  have hread := codePoint?_digits hdigits 0 0 (by omega) (by omega)
    (by rw [hvalue]; exact c.valid) rest
  rw [hvalue] at hread
  simp [escape?, hread]

theorem quoted_quotedChar (c : Char) : Quoted c (quotedChar c).toList := by
  rw [quotedChar]
  split_ifs with hquote hbackslash hfeed hreturn htab hzero hshown
  · obtain rfl := eq_of_beq hquote
    exact .escape (by decide) (by decide) fun _ => rfl
  · obtain rfl := eq_of_beq hbackslash
    exact .escape (by decide) (by decide) fun _ => rfl
  · obtain rfl := eq_of_beq hfeed
    exact .escape (by decide) (by decide) fun _ => rfl
  · obtain rfl := eq_of_beq hreturn
    exact .escape (by decide) (by decide) fun _ => rfl
  · obtain rfl := eq_of_beq htab
    exact .escape (by decide) (by decide) fun _ => rfl
  · refine .escape (by decide) (by decide) fun _ => ?_
    rw [eq_of_beq hzero]
    rfl
  · rw [String.toList_singleton]
    simp only [beq_iff_eq] at hquote hbackslash hreturn
    exact .plain hquote hbackslash hreturn
  · have hchars : ("\\u\x7b" ++ hex c.toNat ++ "\x7d").toList =
        '\\' :: 'u' :: ('\x7b' :: Nat.toDigits 16 c.toNat ++ ['\x7d']) := by
      simp [hex]
    rw [hchars]
    refine .escape (by decide) (by decide) fun rest => ?_
    have hcode := escape?_code c rest
    simpa using hcode

/-- A character of a quoted text takes the characters it is written by. -/
theorem cookedLength?_of_quoted {c : Char} {cs : List Char} (h : Quoted c cs) (fuel : Nat)
    (rest : List Char) :
    cookedLength? {} (fun _ => true) (fuel + 1) (cs ++ rest) =
      (cookedLength? {} (fun _ => true) fuel rest).map (· + cs.length) := by
  cases h with
  | plain hquote hbackslash hreturn =>
    rw [List.singleton_append, cookedLength?]
    · simp [hquote, hreturn]
    · intro _ hc
      exact absurd hc hreturn
    · exact hbackslash
  | @escape b body hfeed hreturn hcode =>
    rw [List.cons_append, cookedLength?, hcode rest, Option.bind_some]
    · simp
    · intro _ hc
      exact hfeed (List.cons.inj hc).1
    · intro _ hc
      exact hreturn (List.cons.inj hc).1

/-- A character of a quoted text is read as itself. -/
theorem cookedText_of_quoted {c : Char} {cs : List Char} (h : Quoted c cs) (fuel : Nat)
    (rest : List Char) : cookedText (fuel + 1) (cs ++ rest) = c :: cookedText fuel rest := by
  cases h with
  | plain hquote hbackslash hreturn =>
    rw [List.singleton_append, cookedText]
    · intro _ hc
      exact absurd hc hreturn
    · exact hbackslash
  | @escape b body hfeed hreturn hcode =>
    rw [List.cons_append, cookedText, hcode rest]
    · simp
    · intro _ hc
      exact hfeed (List.cons.inj hc).1
    · intro _ hc
      exact hreturn (List.cons.inj hc).1

/-- The characters of a text between its quotes. -/
def quotedBody (cs : List Char) : List Char := cs.flatMap fun c => (quotedChar c).toList

theorem quotedBody_cons (c : Char) (cs : List Char) :
    quotedBody (c :: cs) = (quotedChar c).toList ++ quotedBody cs := by
  simp [quotedBody]

theorem toList_quoted (s : String) : (quoted s).toList = '"' :: (quotedBody s.toList ++ ['"']) := by
  simp [quoted, quotedBody, String.toList_join, List.flatMap, Function.comp_def]

/-- A quoted text ends at its closing quote. -/
theorem cookedLength?_quotedBody (cs rest : List Char) {fuel : Nat}
    (hfuel : (quotedBody cs).length < fuel) :
    cookedLength? {} (fun _ => true) fuel (quotedBody cs ++ '"' :: rest) =
      some ((quotedBody cs).length + 1) := by
  induction cs generalizing fuel with
  | nil =>
    cases fuel with
    | zero => exact absurd hfuel (Nat.not_lt_zero _)
    | succ fuel => simp [quotedBody, cookedLength?]
  | cons c cs ih =>
    have hc := quoted_quotedChar c
    have hpos := hc.length_pos
    rw [quotedBody_cons, List.length_append] at hfuel
    cases fuel with
    | zero => exact absurd hfuel (Nat.not_lt_zero _)
    | succ fuel =>
      rw [quotedBody_cons, List.append_assoc, cookedLength?_of_quoted hc, ih (by omega),
        List.length_append, Option.map_some]
      congr 1
      omega

/-- A quoted text denotes the text. -/
theorem cookedText_quotedBody (cs : List Char) {fuel : Nat}
    (hfuel : (quotedBody cs).length < fuel) : cookedText fuel (quotedBody cs) = cs := by
  induction cs generalizing fuel with
  | nil =>
    cases fuel with
    | zero => exact absurd hfuel (Nat.not_lt_zero _)
    | succ fuel => simp [quotedBody, cookedText]
  | cons c cs ih =>
    have hc := quoted_quotedChar c
    have hpos := hc.length_pos
    rw [quotedBody_cons, List.length_append] at hfuel
    cases fuel with
    | zero => exact absurd hfuel (Nat.not_lt_zero _)
    | succ fuel => rw [quotedBody_cons, cookedText_of_quoted hc, ih (by omega)]

theorem literal?_of_quote {body : List Char} {n : Nat}
    (h : stringLength? {} (fun _ => true) "" ('"' :: body) = some n) :
    literal? ('"' :: body) =
      some (.text (String.ofList (cookedText n (body.take (n - 2)))),
        withSuffix ('"' :: body) n) := by
  unfold literal?
  simp only [h]
  rfl

/-- A quoted text is a literal that denotes it, where no name follows. -/
theorem literal?_quoted (s : String) {rest : List Char} (hrest : nameLength rest = 0) :
    literal? ((quoted s).toList ++ rest) = some (.text s, (quoted s).toList.length) := by
  have hchars : (quoted s).toList ++ rest = '"' :: (quotedBody s.toList ++ '"' :: rest) := by
    simp [toList_quoted]
  have hsize : (quoted s).toList.length = (quotedBody s.toList).length + 2 := by
    simp [toList_quoted]
  have hlength : stringLength? {} (fun _ => true) "" ('"' :: (quotedBody s.toList ++ '"' :: rest)) =
      some ((quotedBody s.toList).length + 2) := by
    rw [stringLength?]
    simp [stripLead?, cookedLength?_quotedBody]
  have hsuffix : withSuffix ((quoted s).toList ++ rest) (quoted s).toList.length =
      (quoted s).toList.length := by
    rw [withSuffix, List.drop_left, hrest, Nat.add_zero]
  rw [hchars, hsize] at hsuffix
  rw [hchars, hsize, literal?_of_quote hlength, hsuffix, Nat.add_sub_cancel, List.take_left,
    cookedText_quotedBody _ (by omega), String.ofList_toList]

open SourceText

/-- Too few number signs follow a quote to end a raw string, even where the text ends. -/
theorem isPrefixOf_hashes_of_lt {cs : List Char} {hashes : Nat} (h : leadingHashes cs < hashes)
    (rest : List Char) : (List.replicate hashes '#').isPrefixOf (cs ++ '"' :: rest) = false := by
  induction hashes generalizing cs with
  | zero => exact absurd h (Nat.not_lt_zero _)
  | succ hashes ih =>
    rw [List.replicate_succ]
    cases cs with
    | nil => rfl
    | cons c cs =>
      rw [List.cons_append, List.isPrefixOf_cons_cons]
      -- The run of number signs goes on or ends here, before the closing quote in either case.
      by_cases hc : c = '#'
      · subst hc
        have hfewer : leadingHashes cs < hashes := by
          simpa [leadingHashes] using h
        rw [ih hfewer, Bool.and_false]
      · rw [beq_eq_false_iff_ne.mpr (Ne.symm hc), Bool.false_and]

/-- A raw string ends at the quote behind its text, where more number signs follow than follow any
quote of the text. -/
theorem rawLength?_text {cs : List Char} {hashes : Nat} (hreturn : '\r' ∉ cs)
    (hruns : longestHashRun cs < hashes) (rest : List Char) :
    rawLength? hashes (fun _ => true) (cs ++ '"' :: (List.replicate hashes '#' ++ rest)) =
      some (cs.length + hashes + 1) := by
  induction cs with
  | nil => simp [rawLength?]
  | cons c cs ih =>
    have hc : c ≠ '\r' := fun heq => hreturn (heq ▸ List.mem_cons_self)
    have hrest : '\r' ∉ cs := fun hmem => hreturn (List.mem_cons_of_mem _ hmem)
    have hopen : (c == '"' && (List.replicate hashes '#').isPrefixOf
        (cs ++ '"' :: (List.replicate hashes '#' ++ rest))) = false := by
      by_cases hquote : c = '"'
      · subst hquote
        have hfew : leadingHashes cs < hashes :=
          lt_of_le_of_lt (Nat.le_max_left _ _) (by simpa [longestHashRun] using hruns)
        rw [isPrefixOf_hashes_of_lt hfew, Bool.and_false]
      · rw [beq_eq_false_iff_ne.mpr hquote, Bool.false_and]
    have hfewer : longestHashRun cs < hashes := by
      refine lt_of_le_of_lt ?_ hruns
      rw [longestHashRun]
      split
      · exact Nat.le_max_right _ _
      · exact le_rfl
    rw [List.cons_append, rawLength?, hopen, ih hrest hfewer]
    · simp [hc]
      omega
    · intro _ heq
      exact absurd heq hc

theorem literal?_of_raw {body : List Char} {n : Nat}
    (h : stringLength? {} (fun _ => true) "" ('r' :: body) = some n) :
    literal? ('r' :: body) =
      some (.text (String.ofList ((body.drop (leadingHashes body + 1)).take
        (n - 2 * leadingHashes body - 3))), withSuffix ('r' :: body) n) := by
  unfold literal?
  simp only [h]
  rfl

theorem leadingHashes_replicate (hashes : Nat) (rest : List Char) :
    leadingHashes (List.replicate hashes '#' ++ '"' :: rest) = hashes := by
  simp [leadingHashes]

/-- A text without a carriage return, none of whose quotes is followed by too many number signs, is
read back from its raw string. -/
theorem literal?_rawString {text : String} (hreturn : '\r' ∉ text.toList)
    (hruns : longestHashRun text.toList < 255) {rest : List Char} (hrest : nameLength rest = 0) :
    literal? ((rawString text).toList ++ rest) =
      some (.text text, (rawString text).toList.length) := by
  obtain ⟨hashes, hhashes⟩ : ∃ hashes, hashes = longestHashRun text.toList + 1 := ⟨_, rfl⟩
  have hchars : (rawString text).toList ++ rest = 'r' :: (List.replicate hashes '#' ++
      '"' :: (text.toList ++ '"' :: (List.replicate hashes '#' ++ rest))) := by
    simp [rawString, hhashes]
  have hsize : (rawString text).toList.length = text.toList.length + 2 * hashes + 3 := by
    simp [rawString, hhashes]
    omega
  have hlead : rawHashes? (List.replicate hashes '#' ++
      '"' :: (text.toList ++ '"' :: (List.replicate hashes '#' ++ rest))) = some hashes := by
    have hmany : hashes ≤ 255 := by omega
    simp [rawHashes?, hmany]
  have hdrop : (List.replicate hashes '#' ++ '"' :: (text.toList ++
      '"' :: (List.replicate hashes '#' ++ rest))).drop (hashes + 1) =
        text.toList ++ '"' :: (List.replicate hashes '#' ++ rest) := by
    simp [List.drop_append]
  have hlength : stringLength? {} (fun _ => true) "" ((rawString text).toList ++ rest) =
      some (rawString text).toList.length := by
    have hraw := rawLength?_text hreturn (show longestHashRun text.toList < hashes by omega) rest
    rw [hchars, hsize, stringLength?]
    simp [stripLead?, hlead, hdrop, hraw]
    omega
  have hsuffix : withSuffix ((rawString text).toList ++ rest) (rawString text).toList.length =
      (rawString text).toList.length := by
    rw [withSuffix, List.drop_left, hrest, Nat.add_zero]
  rw [hchars] at hlength hsuffix
  rw [hchars, literal?_of_raw hlength, hsuffix, leadingHashes_replicate, hdrop, hsize,
    show text.toList.length + 2 * hashes + 3 - 2 * hashes - 3 = text.toList.length by omega,
    List.take_left, String.ofList_toList]

theorem hashes_prefix_self (cs : List Char) :
    List.replicate (leadingHashes cs) '#' <+: cs := by
  have hsame : cs.takeWhile (· == '#') = List.replicate (leadingHashes cs) '#' := by
    refine List.eq_replicate_iff.mpr ⟨rfl, fun c hc => ?_⟩
    simpa using List.mem_takeWhile_imp hc
  rw [← hsame]
  exact List.takeWhile_prefix _

/-- A run of number signs behind a quote stands in the text. -/
theorem hashes_infix_of_le {cs : List Char} {hashes : Nat} (hpos : 0 < hashes)
    (h : hashes ≤ longestHashRun cs) : ('"' :: List.replicate hashes '#') <:+: cs := by
  induction cs with
  | nil => exact absurd h (by simp [longestHashRun]; omega)
  | cons c cs ih =>
    rw [longestHashRun] at h
    split at h
    · next hquote =>
      obtain rfl := eq_of_beq hquote
      rcases le_max_iff.mp h with hhere | hlater
      · have hshorter : List.replicate hashes '#' <+: List.replicate (leadingHashes cs) '#' := by
          refine ⟨List.replicate (leadingHashes cs - hashes) '#', ?_⟩
          rw [List.replicate_append_replicate, Nat.add_sub_cancel' hhere]
        have hprefix := hshorter.trans (hashes_prefix_self cs)
        exact ((List.prefix_cons_inj '"').mpr hprefix).isInfix
      · exact (ih hlater).trans (List.suffix_cons _ _).isInfix
    · exact (ih h).trans (List.suffix_cons _ _).isInfix

section Decimal

variable {c : Char} {ds : List Char} (hdigits : ∀ x ∈ c :: ds, x.isDigit = true)
  (rest : List Char)

include hdigits

/-- Digits with a semicolon behind them announce no base. -/
theorem wholeBase_digits : wholeBase (c :: ds ++ ';' :: rest) = (10, 0) := by
  have hsecond {x : Char} {tail : List Char} (hx : x.isDigit = false) (hsemi : x ≠ ';')
      (heq : c :: ds ++ ';' :: rest = '0' :: x :: tail) : False := by
    cases ds with
    | nil =>
      rw [List.cons_append, List.nil_append, List.cons.injEq, List.cons.injEq] at heq
      exact hsemi heq.2.1.symm
    | cons d ds =>
      rw [List.cons_append, List.cons_append, List.cons.injEq, List.cons.injEq] at heq
      exact ne_of_isDigit (hdigits d (by simp)) hx heq.2.1
  rw [wholeBase.eq_def]
  split
  · next heq => exact (hsecond (by decide) (by decide) heq).elim
  · next heq => exact (hsecond (by decide) (by decide) heq).elim
  · next heq => exact (hsecond (by decide) (by decide) heq).elim
  · rfl

theorem wholeLength?_digits :
    wholeLength? (c :: ds ++ ';' :: rest) = some (ds.length + 1) := by
  have hfirst : c ≠ '_' := ne_of_isDigit (hdigits c List.mem_cons_self) (by decide)
  unfold wholeLength?
  rw [wholeBase_digits hdigits]
  simp only [List.drop_zero]
  rw [List.takeWhile_append_of_pos, List.takeWhile_cons_of_neg (by decide), List.append_nil,
    List.any_eq_false.mpr]
  · simp [hfirst]
  · intro x hx
    obtain ⟨hvalue, hd⟩ := digitValue?_of_isDigit (hdigits x hx)
    simpa [hvalue] using hd
  · intro x hx
    simp [hdigits x hx]

theorem numberLength?_digits :
    numberLength? wholeLength? (c :: ds ++ ';' :: rest) = some (ds.length + 1) := by
  have hdrop : (c :: ds ++ ';' :: rest).drop (ds.length + 1) = ';' :: rest := by
    simp
  have hend : nameLength (';' :: rest) = 0 := rfl
  have hstop : isIdentContinue ';' = false := rfl
  simp only [numberLength?, wholeLength?_digits hdigits, Option.bind_some, withSuffix, hdrop, hend,
    Nat.add_zero, List.head?_cons, hstop, Bool.false_eq_true, if_false]

theorem realLength?_digits : realLength? (c :: ds ++ ';' :: rest) = none := by
  have hc := hdigits c List.mem_cons_self
  have hall : ∀ x ∈ ds, (x.isDigit || x == '_') = true := by
    intro x hx
    rw [hdigits x (List.mem_cons_of_mem _ hx), Bool.true_or]
  have htake : (ds ++ ';' :: rest).takeWhile (fun x => x.isDigit || x == '_') = ds := by
    rw [List.takeWhile_append_of_pos hall, List.takeWhile_cons_of_neg (by decide), List.append_nil]
  rw [List.cons_append, realLength?]
  simp [hc, htake]

/-- No character but a digit begins with one. -/
theorem stripLead?_digits {l : Char} (lead : List Char) (hl : l.isDigit = false) :
    stripLead? (l :: lead) (c :: ds ++ ';' :: rest) = none := by
  have hne : (l == c) = false :=
    beq_eq_false_iff_ne.mpr (ne_of_isDigit (hdigits c List.mem_cons_self) hl).symm
  rw [List.cons_append, stripLead?, hne]
  rfl

theorem stringLength?_digits (k : Escapes) (plain : Char → Bool) :
    stringLength? k plain "" (c :: ds ++ ';' :: rest) = none := by
  have hc := hdigits c List.mem_cons_self
  rw [stringLength?, Option.bind_eq_none_iff]
  rintro _ ⟨⟩
  split
  · next heq => exact absurd (List.cons.inj heq).1 (ne_of_isDigit hc (by decide))
  · next heq => exact absurd (List.cons.inj heq).1 (ne_of_isDigit hc (by decide))
  · rfl

theorem characterLength?_digits (k : Escapes) (plain : Char → Bool) :
    characterLength? k plain "" (c :: ds ++ ';' :: rest) = none := by
  have hc := hdigits c List.mem_cons_self
  rw [characterLength?, Option.bind_eq_none_iff]
  rintro _ ⟨⟩
  split
  · next heq => exact absurd (List.cons.inj heq).1 (ne_of_isDigit hc (by decide))
  · next heq => exact absurd (List.cons.inj heq).1 (ne_of_isDigit hc (by decide))
  · rfl

/-- Digits with a semicolon behind them are a literal that denotes their value. -/
theorem literal?_digits :
    literal? (c :: ds ++ ';' :: rest) =
      some (.whole (digitsValue 10 (c :: ds)) "", ds.length + 1) := by
  have hbytes : stripLead? "b".toList (c :: ds ++ ';' :: rest) = none :=
    stripLead?_digits hdigits rest [] (by decide)
  have hshared : stripLead? "c".toList (c :: ds ++ ';' :: rest) = none :=
    stripLead?_digits hdigits rest [] (by decide)
  have hreal : numberLength? realLength? (c :: ds ++ ';' :: rest) = none := by
    rw [numberLength?, realLength?_digits hdigits, Option.bind_none]
  have hbyteString (k : Escapes) (plain : Char → Bool) :
      stringLength? k plain "b" (c :: ds ++ ';' :: rest) = none := by
    rw [stringLength?, hbytes, Option.bind_none]
  have hsharedString (k : Escapes) (plain : Char → Bool) :
      stringLength? k plain "c" (c :: ds ++ ';' :: rest) = none := by
    rw [stringLength?, hshared, Option.bind_none]
  have hbyte (k : Escapes) (plain : Char → Bool) :
      characterLength? k plain "b" (c :: ds ++ ';' :: rest) = none := by
    rw [characterLength?, hbytes, Option.bind_none]
  unfold literal?
  simp only [stringLength?_digits hdigits, hbyteString, hsharedString, hbyte,
    characterLength?_digits hdigits, hreal, numberLength?_digits hdigits,
    wholeBase_digits hdigits, wholeLength?_digits hdigits]
  simp

end Decimal

/-- A number in decimal digits is a literal that denotes it, where a semicolon follows. -/
theorem literal?_toDigits (n : Nat) (rest : List Char) :
    literal? (Nat.toDigits 10 n ++ ';' :: rest) =
      some (.whole n "", (Nat.toDigits 10 n).length) := by
  obtain ⟨c, ds, hcons⟩ := List.exists_cons_of_ne_nil (Nat.toDigits_ne_nil (b := 10) (n := n))
  have hdigits : ∀ x ∈ c :: ds, x.isDigit = true := by
    rw [← hcons]
    exact fun x hx => Nat.isDigit_of_mem_toDigits (by decide) (by decide) hx
  have hvalue : digitsValue 10 (c :: ds) = n := by
    rw [← hcons, digitsValue_toDigits (by decide) (by decide)]
  rw [hcons, literal?_digits hdigits, hvalue, List.length_cons]

end RouteContract.Source
