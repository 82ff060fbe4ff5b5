import RouteContract.Proofs.Source.Literals
import RouteContract.Proofs.Source.Tokens
import RouteContract.Proofs.Table

/-!
What a source text says to its reader. Read token by token it is three constants and nothing else:
the YAML text as a string that denotes it, the number of its endpoints, and their verbs and paths in
the order of the paths and then of the verbs, each pair once.
-/

namespace RouteContract.SourceText

open Source Text

/-- Adds the verb of an endpoint to those of its path. -/
def addVerb (t : Table String (Table String Unit)) (e : Endpoint) :
    Table String (Table String Unit) :=
  t.insert e.path (Table.insert e.verb.name () ((t.lookup e.path).getD []))

theorem verbsByPath_eq (es : List Endpoint) : verbsByPath es = es.foldl addVerb [] := rfl

/-- The verb stands under the path. -/
def Listed (t : Table String (Table String Unit)) (path verb : String) : Prop :=
  verb ∈ ((t.lookup path).getD []).map (·.1)

theorem listed_addVerb {t : Table String (Table String Unit)} {e : Endpoint}
    {path verb : String} :
    Listed (addVerb t e) path verb ↔ (e.path = path ∧ e.verb.name = verb) ∨ Listed t path verb := by
  rw [Listed, addVerb, Table.lookup_insert]
  by_cases hpath : path = e.path
  · subst hpath
    rw [if_pos rfl, Option.getD_some, Table.mem_keys_insert, Listed]
    simp [eq_comm]
  · rw [if_neg hpath, Listed]
    simp [Ne.symm hpath]

theorem listed_foldl {t : Table String (Table String Unit)} {es : List Endpoint}
    {path verb : String} :
    Listed (es.foldl addVerb t) path verb ↔
      (∃ e ∈ es, e.path = path ∧ e.verb.name = verb) ∨ Listed t path verb := by
  induction es generalizing t with
  | nil => simp
  | cons e es ih =>
    rw [List.foldl_cons, ih, listed_addVerb]
    simp only [List.mem_cons, exists_eq_or_imp]
    rw [or_assoc, or_left_comm]

/-- Paths are in order, and so are the verbs of each. -/
structure Ordered (t : Table String (Table String Unit)) : Prop where
  paths : t.Sorted
  verbs : ∀ entry ∈ t, entry.2.Sorted

theorem Ordered.addVerb {t : Table String (Table String Unit)} (h : Ordered t) (e : Endpoint) :
    Ordered (addVerb t e) := by
  refine ⟨h.paths.insert _ _, fun entry hentry => ?_⟩
  rcases Table.mem_insert hentry with rfl | hold
  · refine Table.Sorted.insert ?_ _ _
    cases hlookup : t.lookup e.path with
    | none => exact Table.sorted_nil
    | some verbs => exact h.verbs _ (Table.mem_of_lookup hlookup)
  · exact h.verbs entry hold

theorem ordered_verbsByPath (es : List Endpoint) : Ordered (verbsByPath es) := by
  have hrun (t : Table String (Table String Unit)) (h : Ordered t) :
      Ordered (es.foldl addVerb t) := by
    induction es generalizing t with
    | nil => exact h
    | cons e es ih => exact ih _ (h.addVerb e)
  exact hrun [] ⟨Table.sorted_nil, fun _ hmem => absurd hmem List.not_mem_nil⟩

/-- Pairs are listed in the strict order of the paths and then of the verbs. -/
theorem pairwise_listing (es : List Endpoint) :
    (listing es).Pairwise (Prod.Lex (· < ·) (· < ·)) := by
  have hordered := ordered_verbsByPath es
  rw [listing, List.pairwise_flatMap]
  constructor
  · intro entry hentry
    have hverbs := hordered.verbs entry hentry
    rw [Table.Sorted, List.pairwise_map] at hverbs
    rw [List.pairwise_map]
    refine hverbs.imp ?_
    intro v w hlt
    exact Prod.Lex.right _ hlt
  · have hpaths := hordered.paths
    rw [Table.Sorted, List.pairwise_map] at hpaths
    refine hpaths.imp fun hlt x hx y hy => ?_
    obtain ⟨v, -, rfl⟩ := List.mem_map.mp hx
    obtain ⟨w, -, rfl⟩ := List.mem_map.mp hy
    exact Prod.Lex.left _ _ hlt

theorem mem_listing {es : List Endpoint} {path verb : String} :
    (path, verb) ∈ listing es ↔ ∃ e ∈ es, e.path = path ∧ e.verb.name = verb := by
  have hlisted : (path, verb) ∈ listing es ↔ Listed (verbsByPath es) path verb := by
    constructor
    · intro hmem
      obtain ⟨entry, hentry, hverb⟩ := List.mem_flatMap.mp hmem
      obtain ⟨v, hv, hpair⟩ := List.mem_map.mp hverb
      cases hpair
      have hlookup := Table.lookup_of_mem (ordered_verbsByPath es).paths.nodup hentry
      rw [Listed, hlookup]
      exact List.mem_map_of_mem hv
    · intro hlisted
      cases hlookup : (verbsByPath es).lookup path with
      | none => simp [Listed, hlookup] at hlisted
      | some verbs =>
        rw [Listed, hlookup] at hlisted
        obtain ⟨v, hv, rfl⟩ := List.mem_map.mp hlisted
        refine List.mem_flatMap.mpr ⟨(path, verbs), Table.mem_of_lookup hlookup, ?_⟩
        exact List.mem_map.mpr ⟨v, hv, rfl⟩
  rw [hlisted, verbsByPath_eq, listed_foldl]
  simp [Listed]

/-- The tokens of a public constant. -/
def constantTrees (name : String) (type value : List Tree) : List Tree :=
  [Tree.word "pub" .start, .word "const" .start, .word name .start, .mark ':' false] ++ type ++
    [Tree.mark '=' false] ++ value ++ [Tree.mark ';' false]

/-- The tokens of the type of texts. -/
def textType : List Tree := [.mark '&' false, .word "str" .start]

/-- The tokens of the type of the listing. -/
def listingType : List Tree :=
  [.mark '&' false, .group .bracket [.group .paren (textType ++ .mark ',' false :: textType)]]

/-- The tokens of a line of the listing. -/
def pairTrees : String × String → List Tree
  | (path, verb) =>
    [.group .paren [.literal (.text verb), .mark ',' false, .literal (.text path)], .mark ',' false]

/-- The tokens of a source text. -/
def moduleTrees (yaml : String) (pairs : List (String × String)) : List Tree :=
  constantTrees "YAML" textType [.literal (.text yaml)] ++
  constantTrees "ENDPOINT_COUNT" [.word "usize" .start] [.literal (.whole pairs.length "")] ++
  constantTrees "ENDPOINTS" listingType
    [.mark '&' false, .group .bracket (pairs.flatMap pairTrees)]

/-- A word that a blank follows. -/
theorem reads_word_blank (name : String) (hname : name.toList ≠ [])
    (h : ∀ pos rest, piece? pos (name.toList ++ ' ' :: rest) =
      some (.leaf (.word name pos), name.toList.length)) (rest : List Char) :
    Reads (name.toList ++ [' ']) [.word name .start] rest :=
  .append (.word hname fun pos => h pos rest) (.blank [' '] rfl rest)

/-- A mark that a blank follows. -/
theorem reads_mark_blank {c : Char}
    (h : ∀ pos rest, piece? pos (c :: ' ' :: rest) = some (.leaf (.mark c false), 1))
    (rest : List Char) : Reads [c, ' '] [.mark c false] rest :=
  .append (.mark fun pos => h pos rest) (.blank [' '] rfl rest)

/-- The text of a public constant, after an empty line. -/
def constantText (name type value : String) : String :=
  "\npub const " ++ name ++ ": " ++ type ++ " = " ++ value ++ ";\n"

theorem reads_constantText {name type value : String} {typeTrees valueTrees : List Tree}
    {rest : List Char} (hname : name.toList ≠ [])
    (hword : ∀ pos rest, piece? pos (name.toList ++ ':' :: rest) =
      some (.leaf (.word name pos), name.toList.length))
    (htype : ∀ rest, Reads type.toList typeTrees (' ' :: rest))
    (hvalue : ∀ rest, Reads value.toList valueTrees (';' :: rest)) :
    Reads (constantText name type value).toList (constantTrees name typeTrees valueTrees) rest := by
  have hpublic (rest : List Char) :
      Reads "\npub const ".toList [.word "pub" .start, .word "const" .start] rest :=
    .append (.append (.blank ['\n'] rfl _)
        (reads_word_blank "pub" (by decide) (fun _ _ => rfl) _))
      (reads_word_blank "const" (by decide) (fun _ _ => rfl) rest)
  have hcolon (rest : List Char) : Reads ": ".toList [.mark ':' false] rest :=
    reads_mark_blank (fun _ _ => rfl) rest
  have hequals (rest : List Char) : Reads " = ".toList [.mark '=' false] rest :=
    .append (.blank [' '] rfl _) (reads_mark_blank (fun _ _ => rfl) rest)
  have hend : Reads ";\n".toList [.mark ';' false] rest :=
    .append (.mark (fun _ => rfl)) (.blank ['\n'] rfl _)
  unfold constantText
  simp only [String.toList_append]
  refine .append (.append (.append (.append ?_ (htype _)) (hequals _)) (hvalue _)) hend
  exact .append (.append (hpublic _) (.word hname fun pos => hword pos _)) (hcolon _)

/-- A quoted text where a mark or the end of a group follows. -/
theorem reads_quoted (s : String) {rest : List Char} (hrest : nameLength rest = 0) :
    Reads (quoted s).toList [.literal (.text s)] rest := by
  have hliteral := literal?_quoted s hrest
  rw [toList_quoted] at hliteral ⊢
  exact .literal (by decide) hliteral

theorem reads_rawString {text : String} (hreturn : '\r' ∉ text.toList)
    (hruns : longestHashRun text.toList < 255) {rest : List Char} (hrest : nameLength rest = 0) :
    Reads (rawString text).toList [.literal (.text text)] rest := by
  have hliteral := literal?_rawString hreturn hruns hrest
  obtain ⟨cs, hlead⟩ : ∃ cs, (rawString text).toList = 'r' :: cs := by
    simp only [rawString, String.toList_append]
    exact ⟨_, rfl⟩
  rw [hlead] at hliteral ⊢
  exact .literal (by decide) hliteral

theorem reads_number (n : Nat) (rest : List Char) :
    Reads (toString n).toList [.literal (.whole n "")] (';' :: rest) := by
  have hliteral := literal?_toDigits n rest
  have hdigits : (toString n).toList = Nat.toDigits 10 n := by
    simp
  have hleaf : ∀ c ∈ Nat.toDigits 10 n, startsLeaf c = true := by
    intro c hc
    obtain ⟨d, hd, rfl⟩ := exists_of_mem_toDigits (by decide) hc
    exact (by decide : ∀ d < 10, startsLeaf d.digitChar = true) d hd
  obtain ⟨c, cs, hcons⟩ := List.exists_cons_of_ne_nil (Nat.toDigits_ne_nil (b := 10) (n := n))
  rw [hdigits]
  rw [hcons] at hliteral hleaf ⊢
  exact .literal (hleaf c List.mem_cons_self) hliteral

theorem reads_listingLine (path verb : String) (rest : List Char) :
    Reads (listingLine (path, verb)).toList (pairTrees (path, verb)) rest := by
  have hinner (rest : List Char) :
      Reads ((quoted verb).toList ++ (", ".toList ++ (quoted path).toList))
        [.literal (.text verb), .mark ',' false, .literal (.text path)] (')' :: rest) :=
    .append (reads_quoted verb rfl)
      (.append (reads_mark_blank (fun _ _ => rfl) _) (reads_quoted path rfl))
  have hend : Reads ",\n".toList [.mark ',' false] rest :=
    .append (.mark fun _ => rfl) (.blank ['\n'] rfl rest)
  simp only [listingLine, String.toList_append]
  rw [toList_quoted verb] at hinner ⊢
  have hgroup := Reads.paren (by decide) (hinner (",\n".toList ++ rest))
  have hline := Reads.append (.blank "    ".toList rfl _) (.append hgroup hend)
  simpa [pairTrees] using hline

theorem reads_listing (pairs : List (String × String)) (rest : List Char) :
    Reads (String.join (pairs.map listingLine)).toList (pairs.flatMap pairTrees) rest := by
  induction pairs with
  | nil => exact .nil rest
  | cons pair pairs ih =>
    rw [List.map_cons, String.join_cons, String.toList_append, List.flatMap_cons]
    exact .append (reads_listingLine pair.1 pair.2 _) ih

theorem reads_textType {c : Char} (hc : c ∈ [' ', ',', ')']) (rest : List Char) :
    Reads "&str".toList textType (c :: rest) := by
  have hstr (pos : Pos) : piece? pos ("str".toList ++ c :: rest) =
      some (.leaf (.word "str" pos), 3) := by
    simp only [List.mem_cons, List.not_mem_nil, or_false] at hc
    rcases hc with rfl | rfl | rfl <;> rfl
  have hmark : Reads ['&'] [.mark '&' false] ("str".toList ++ c :: rest) := .mark fun _ => rfl
  exact hmark.append (.word (by decide) hstr)

theorem reads_listingType (rest : List Char) :
    Reads "&[(&str, &str)]".toList listingType (' ' :: rest) := by
  have hinner (rest : List Char) : Reads ("&str".toList ++ (", ".toList ++ "&str".toList))
      (textType ++ .mark ',' false :: textType) (')' :: rest) :=
    .append (reads_textType (by decide) _)
      (.append (reads_mark_blank (fun _ _ => rfl) _) (reads_textType (by decide) rest))
  have hpair (rest : List Char) : Reads "(&str, &str)".toList
      [.group .paren (textType ++ .mark ',' false :: textType)] rest :=
    Reads.paren (by decide) (hinner rest)
  have hmark : Reads ['&'] [.mark '&' false] ("[(&str, &str)]".toList ++ ' ' :: rest) :=
    .mark fun _ => rfl
  exact hmark.append (.bracket (hpair _))

/-- The text of the listing as a value. -/
def listingText (pairs : List (String × String)) : String :=
  "&[\n" ++ String.join (pairs.map listingLine) ++ "]"

theorem reads_listingText (pairs : List (String × String)) (rest : List Char) :
    Reads (listingText pairs).toList [.mark '&' false, .group .bracket (pairs.flatMap pairTrees)]
      rest := by
  have hlines : Reads ("\n".toList ++ (String.join (pairs.map listingLine)).toList)
      (pairs.flatMap pairTrees) (']' :: rest) :=
    .append (.blank ['\n'] rfl _) (reads_listing _ _)
  simp only [listingText, String.toList_append]
  exact .append (.mark fun _ => rfl) (.bracket hlines)

/-- A source text is a comment and three constants. -/
theorem ofYaml_eq (yaml : String) (es : List Endpoint) :
    ofYaml yaml es = "// @generated by openapi-from-routes. Do not edit." ++ "\n" ++
      constantText "YAML" "&str" (rawString yaml) ++
      constantText "ENDPOINT_COUNT" "usize" (toString (listing es).length) ++
      constantText "ENDPOINTS" "&[(&str, &str)]" (listingText (listing es)) := by
  have hyaml : "// @generated by openapi-from-routes. Do not edit.\n\n" ++
      "pub const YAML: &str = " = "// @generated by openapi-from-routes. Do not edit." ++ "\n" ++
        "\npub const " ++ "YAML" ++ ": " ++ "&str" ++ " = " := rfl
  have hcount : ";\n\n" ++ "pub const ENDPOINT_COUNT: usize = " =
      ";\n" ++ "\npub const " ++ "ENDPOINT_COUNT" ++ ": " ++ "usize" ++ " = " := rfl
  have hlisting : ";\n\n" ++ "pub const ENDPOINTS: &[(&str, &str)] = &[\n" = ";\n" ++
      "\npub const " ++ "ENDPOINTS" ++ ": " ++ "&[(&str, &str)]" ++ " = " ++ "&[\n" := rfl
  have hend : "];\n" = "]" ++ ";\n" := rfl
  calc ofYaml yaml es = ("// @generated by openapi-from-routes. Do not edit.\n\n" ++
        "pub const YAML: &str = ") ++ rawString yaml ++
        (";\n\n" ++ "pub const ENDPOINT_COUNT: usize = ") ++ toString (listing es).length ++
        (";\n\n" ++ "pub const ENDPOINTS: &[(&str, &str)] = &[\n") ++
        String.join ((listing es).map listingLine) ++ "];\n" := by
        unfold ofYaml
        simp only [String.append_assoc]
    _ = _ := by
        rw [hyaml, hcount, hlisting, hend]
        unfold constantText listingText
        simp only [String.append_assoc]

/-- A source text is read as its three constants. -/
theorem reads_ofYaml {yaml : String} (hreturn : '\r' ∉ yaml.toList)
    (hruns : longestHashRun yaml.toList < 255) (es : List Endpoint) :
    Reads (ofYaml yaml es).toList (moduleTrees yaml (listing es)) [] := by
  have hcomment (rest : List Char) :
      Reads ("// @generated by openapi-from-routes. Do not edit.".toList ++ "\n".toList) [] rest :=
    .append (.comment (by decide) fun _ => rfl) (.blank ['\n'] rfl rest)
  have hyaml (rest : List Char) : Reads (constantText "YAML" "&str" (rawString yaml)).toList
      (constantTrees "YAML" textType [.literal (.text yaml)]) rest :=
    reads_constantText (by decide) (fun _ _ => rfl) (reads_textType (by decide))
      (fun _ => reads_rawString hreturn hruns rfl)
  have hcount (rest : List Char) :
      Reads (constantText "ENDPOINT_COUNT" "usize" (toString (listing es).length)).toList
        (constantTrees "ENDPOINT_COUNT" [.word "usize" .start]
          [.literal (.whole (listing es).length "")]) rest :=
    reads_constantText (by decide) (fun _ _ => rfl) (fun _ => .word (by decide) fun _ => rfl)
      (reads_number _)
  have hlisting : Reads
      (constantText "ENDPOINTS" "&[(&str, &str)]" (listingText (listing es))).toList
      (constantTrees "ENDPOINTS" listingType
        [.mark '&' false, .group .bracket ((listing es).flatMap pairTrees)]) [] :=
    reads_constantText (by decide) (fun _ _ => rfl) reads_listingType
      (fun _ => reads_listingText _ _)
  rw [ofYaml_eq]
  simp only [String.toList_append]
  exact (((hcomment _).append (hyaml _)).append (hcount _)).append hlisting

/-- Let a YAML text have no carriage return and no quote with 255 number signs or more behind it.
Then the source text is read as three constants, and the first of them denotes the YAML text, the
second the number of pairs and the third the pairs. The pairs are those of the endpoints, in the
strict order of their paths and then of their verbs. -/
theorem render_read_back (j : Json) (es : List Endpoint)
    (hreturn : '\r' ∉ (Yaml.render j).toList)
    (hruns : ¬ ('"' :: List.replicate 255 '#') <:+: (Yaml.render j).toList) :
    (∃ ts, fileTokens? (render j es) = some ts ∧
      treesUnplaced ts = moduleTrees (Yaml.render j) (listing es)) ∧
    (listing es).Pairwise (Prod.Lex (· < ·) (· < ·)) ∧
    ∀ path verb, (path, verb) ∈ listing es ↔ ∃ e ∈ es, e.path = path ∧ e.verb.name = verb := by
  have hfew : longestHashRun (Yaml.render j).toList < 255 := by
    by_contra hmany
    exact hruns (hashes_infix_of_le (by decide) (Nat.le_of_not_lt hmany))
  refine ⟨?_, pairwise_listing es, fun _ _ => mem_listing⟩
  have hread := reads_ofYaml hreturn hfew es
  obtain ⟨cs, hchars⟩ : ∃ cs, (ofYaml (Yaml.render j) es).toList = '/' :: cs := by
    rw [ofYaml_eq]
    simp only [String.toList_append]
    exact ⟨_, rfl⟩
  rw [hchars] at hread
  have hfile := fileTokens?_of_reads (by decide) (by decide) hread
  rw [← hchars, String.ofList_toList] at hfile
  exact hfile

/-- A title with a quote and a number sign behind it, and two endpoints of one path. -/
theorem render_read_back_shop :
    let document : Json := .obj [("title", .str "The \"#1\" shop")]
    let es : List Endpoint :=
      [{ verb := .post, path := "/v1/items", requestType := "Item", responseType := "Item" },
        { verb := .get, path := "/v1/items", requestType := "Find", responseType := "Item" }]
    '\r' ∉ (Yaml.render document).toList ∧
    ¬ ('"' :: List.replicate 255 '#') <:+: (Yaml.render document).toList ∧
    ∃ ts, fileTokens? (render document es) = some ts ∧
      treesUnplaced ts = moduleTrees "title: The \"#1\" shop\n"
        [("/v1/items", "GET"), ("/v1/items", "POST")] := by
  intro document es
  have hyaml : Yaml.render document = "title: The \"#1\" shop\n" := by
    decide +kernel
  have hreturn : '\r' ∉ (Yaml.render document).toList := by
    rw [hyaml]
    decide
  have hruns : ¬ ('"' :: List.replicate 255 '#') <:+: (Yaml.render document).toList := by
    rw [hyaml]
    intro hinfix
    have hlength := hinfix.length_le
    have hshort : "title: The \"#1\" shop\n".toList.length = 21 := rfl
    rw [List.length_cons, List.length_replicate, hshort] at hlength
    omega
  have hread := (render_read_back document es hreturn hruns).1
  rw [hyaml] at hread
  exact ⟨hreturn, hruns, hread⟩

end RouteContract.SourceText
