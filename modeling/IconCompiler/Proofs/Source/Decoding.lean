import IconCompiler.Proofs.ItemName
import IconCompiler.Proofs.Source.Declaration
import IconCompiler.Proofs.Source.Writing
import IconCompiler.Source.Rendering

/-! # Decoding of rendered icons

    A rendered source file is read line by line.  Every line is one physical
    line, and the tokens of the lines are those of the token trees of a file
    (`reads_fileLayout`), from which the names of the modules and the icons are
    read back.  So the text determines the icons' names, attributes and markup:
    whatever characters these are made of, they never reach beyond the literals
    that hold them. -/

namespace IconCompiler.Source

open Text ItemName Rendering

/-! ## Words in front of marks -/

/-- The word that a text is, if it is not empty. -/
def wordAtoms (text : String) : List Atom :=
  if text = "" then [] else [.word text]

/-- Reading on behind a word, where something else follows. -/
theorem scan_word_before {text : String} (hword : IsWord text) {behind : List Char}
    {found : List Token} {last : Mode}
    (hhead : behind.head?.map isWordChar = some false)
    (hbehind : scan .between behind = some (found, last)) :
    scan .between (text.toList ++ behind) = some (.atom (.word text) :: found, last) := by
  have hfront := scan_word hword.nonempty hword.chars
  have hrest : scan (.word text.toList.reverse) behind
      = some (.atom (.word text) :: found, last) := by
    cases behind with
    | nil => exact absurd hhead (by simp)
    | cons c rest =>
        have hc : isWordChar c = false := by simpa using hhead
        -- a character that ends the word begins what it would begin between tokens
        have hstep : step (.word text.toList.reverse) c
            = some (.atom (.word text) :: (begin c).1, (begin c).2) := by
          rw [step, hc, if_neg Bool.false_ne_true, List.reverse_reverse, String.ofList_toList]
        rw [scan_cons_of (show step .between c = some ((begin c).1, (begin c).2) from rfl)]
          at hbehind
        rw [scan_cons_of hstep]
        cases hs : scan (begin c).2 rest with
        | none =>
            rw [hs] at hbehind
            exact absurd hbehind (by simp)
        | some q =>
            rw [hs] at hbehind
            simp only [Option.map_some, Option.some.injEq, Prod.mk.injEq] at hbehind
            simp [hbehind]
  exact scan_append_eq hfront hrest

theorem scan_chars_before {text : String} (hchars : ∀ c ∈ text.toList, isWordChar c = true)
    {behind : List Char} {found : List Token} {last : Mode}
    (hhead : behind.head?.map isWordChar = some false)
    (hbehind : scan .between behind = some (found, last)) :
    scan .between (text.toList ++ behind)
      = some ((wordAtoms text).map Token.atom ++ found, last) := by
  by_cases hempty : text = ""
  · subst hempty
    exact hbehind
  · have hword : IsWord text := ⟨fun hnil => hempty (String.toList_eq_nil_iff.mp hnil), hchars⟩
    rw [wordAtoms, if_neg hempty]
    exact scan_word_before hword hhead hbehind

theorem scan_quoted_before (text : String) {behind : List Char} {found : List Token}
    {last : Mode} (hbehind : scan .between behind = some (found, last)) :
    scan .between ((quoted text).toList ++ behind)
      = some (.atom (.literal text) :: found, last) :=
  scan_append_eq (scan_quoted text) hbehind

theorem newline_not_mem_chars {cs : List Char} (h : ∀ c ∈ cs, isWordChar c = true) :
    '\n' ∉ cs :=
  fun hmem => absurd (h _ hmem) (by decide)

theorem isLine_append {front ending : String} (hfront : '\n' ∉ front.toList)
    (hending : '\n' ∉ ending.toList) {c : Char} (hlast : ending.toList.getLast? = some c)
    (hc : c ≠ '\r') : IsLine (front ++ ending) where
  unbroken := by
    rw [String.toList_append]
    intro hmem
    rcases List.mem_append.mp hmem with h | h
    · exact hfront h
    · exact hending h
  no_return := by
    rw [String.toList_append, List.getLast?_append, hlast]
    exact fun he => hc (Option.some.inj he)

/-! ## The lines of a constant -/

theorem lineReads_pair (entry : String × String) :
    LineReads ("(" ++ quoted entry.1 ++ ", " ++ quoted entry.2 ++ "),")
      (TokenTree.allTokens (pairTrees entry)) where
  toIsLine := by
    refine isLine_append ?_ (by decide) rfl (by decide)
    simp only [String.toList_append, List.mem_append, not_or]
    exact ⟨⟨⟨by decide, newline_not_mem_quoted _⟩, by decide⟩, newline_not_mem_quoted _⟩
  reads := by
    have hclose : scan .between ("),".toList ++ ['\n'])
        = some ([.closing .round, .atom (.mark ',')], .between) := rfl
    have hmiddle : scan .between ", ".toList = some ([.atom (.mark ',')], .between) := rfl
    have hopen : scan .between "(".toList = some ([.opening .round], .between) := rfl
    have hall := scan_append_eq hopen (scan_quoted_before entry.1
      (scan_append_eq hmiddle (scan_quoted_before entry.2 hclose)))
    simp only [String.toList_append, List.append_assoc]
    rw [hall]
    simp [pairTrees]

theorem lineReads_field {front : String} {found : List Token} (hfront : '\n' ∉ front.toList)
    (hreads : scan .between front.toList = some (found, .between)) (text : String) :
    LineReads (front ++ quoted text ++ ",")
      (found ++ [.atom (.literal text), .atom (.mark ',')]) where
  toIsLine := by
    refine isLine_append ?_ (by decide) rfl (by decide)
    simp only [String.toList_append, List.mem_append, not_or]
    exact ⟨hfront, newline_not_mem_quoted _⟩
  reads := by
    have hclose : scan .between (",".toList ++ ['\n']) = some ([.atom (.mark ',')], .between) := rfl
    have hall := scan_append_eq hreads (scan_quoted_before text hclose)
    simp only [String.toList_append, List.append_assoc]
    exact hall

/-- A constant's opening line, the type being written with word characters. -/
theorem lineReads_constant {constant type : String} (hconstant : IsWord constant)
    (htype : ∀ c ∈ type.toList, isWordChar c = true) :
    LineReads ("pub const " ++ constant ++ ": " ++ type ++ " = " ++ type ++ " \x7b")
      ([.atom (.word "pub"), .atom (.word "const"), .atom (.word constant)]
        ++ (Atom.mark ':' :: (wordAtoms type ++ Atom.mark '=' :: wordAtoms type)).map Token.atom
        ++ [.opening .curly]) where
  toIsLine := by
    refine isLine_append ?_ (by decide) rfl (by decide)
    simp only [String.toList_append, List.mem_append, not_or]
    have hc := newline_not_mem_chars hconstant.chars
    have ht := newline_not_mem_chars htype
    exact ⟨⟨⟨⟨⟨by decide, hc⟩, by decide⟩, ht⟩, by decide⟩, ht⟩
  reads := by
    have hbrace : scan .between (" \x7b".toList ++ ['\n']) = some ([.opening .curly], .between) :=
      rfl
    have hequals : scan .between " = ".toList = some ([.atom (.mark '=')], .between) := rfl
    have hcolon : scan .between ": ".toList = some ([.atom (.mark ':')], .between) := rfl
    have hopen : scan .between "pub const ".toList
        = some ([.atom (.word "pub"), .atom (.word "const")], .between) := rfl
    have hvalue := scan_append_eq hequals (scan_chars_before htype rfl hbrace)
    have htyped := scan_append_eq hcolon (scan_chars_before htype rfl hvalue)
    have hall := scan_append_eq hopen (scan_word_before hconstant rfl htyped)
    simp only [String.toList_append, List.append_assoc]
    rw [hall]
    simp

theorem reads_pairLines (entries : List (String × String)) :
    Layout.Reads (entries.map pairLine) (TokenTree.allTokens (entries.flatMap pairTrees)) := by
  induction entries with
  | nil =>
      rw [List.flatMap_nil, allTokens_nil]
      exact .nil
  | cons entry rest ih =>
      rw [List.map_cons, List.flatMap_cons, allTokens_append]
      exact .line (lineReads_pair entry) ih

/-- Read line by line, the attributes of a constant are a list of pairs. -/
theorem reads_attributeLayout (attributes : AttributeMap) :
    Layout.Reads [attributeLayout attributes]
      (TokenTree.allTokens [.leaf (.word "attributes"), .leaf (.mark ':'), .leaf (.mark '&'),
        .group .square (attributes.entries.flatMap pairTrees), .leaf (.mark ',')]) := by
  by_cases hempty : attributes.entries = []
  -- without attributes the brackets stand on one line, but the tokens are the same
  · have hline : LineReads "attributes: &[]," [.atom (.word "attributes"), .atom (.mark ':'),
        .atom (.mark '&'), .opening .square, .closing .square, .atom (.mark ',')] :=
      ⟨⟨by decide, by decide⟩, rfl⟩
    rw [attributeLayout, if_pos hempty, hempty]
    simpa using Layout.Reads.line hline .nil
  · have hpairs := reads_pairLines attributes.entries
    have hopening : LineReads "attributes: &[" [.atom (.word "attributes"), .atom (.mark ':'),
        .atom (.mark '&'), .opening .square] := ⟨⟨by decide, by decide⟩, rfl⟩
    have hclosing : LineReads "]," [.closing .square, .atom (.mark ',')] :=
      ⟨⟨by decide, by decide⟩, rfl⟩
    rw [attributeLayout, if_neg hempty]
    simpa using Layout.Reads.block hopening hpairs hclosing .nil

/-- Read line by line, a constant is its declaration. -/
theorem reads_constantLayout {type : String}
    (htype : ∀ c ∈ type.toList, isWordChar c = true) (icon : Icon) :
    Layout.Reads [constantLayout type icon]
      (TokenTree.allTokens (constantTrees (wordAtoms type) icon)) := by
  have hnameFront : scan .between "name: ".toList
      = some ([.atom (.word "name"), .atom (.mark ':')], .between) := rfl
  have hinnerFront : scan .between "inner: ".toList
      = some ([.atom (.word "inner"), .atom (.mark ':')], .between) := rfl
  have hname := lineReads_field (by decide) hnameFront icon.name
  have hinner := lineReads_field (by decide) hinnerFront icon.inner
  have hfields := Layout.Reads.line hname
    ((reads_attributeLayout icon.attributes).append (.line hinner .nil))
  have hopening := lineReads_constant (isWord_constantName icon.identifier) htype
  have hclosing : LineReads "\x7d;" [.closing .curly, .atom (.mark ';')] :=
    ⟨⟨by decide, by decide⟩, rfl⟩
  have hall := Layout.Reads.block hopening hfields hclosing .nil
  rw [constantLayout]
  simpa [constantTrees, fieldTrees, allTokens_append, allTokens_leaves] using hall

theorem lineReads_blank : LineReads "" [] where
  unbroken := by decide
  no_return := by decide
  reads := rfl

/-- Read line by line, constants with blank lines between them are their
    declarations, one after the other. -/
theorem reads_constants {type : String} (htype : ∀ c ∈ type.toList, isWordChar c = true)
    (icons : List Icon) :
    Layout.Reads ((icons.map (constantLayout type)).intersperse .blank)
      (TokenTree.allTokens (icons.flatMap (constantTrees (wordAtoms type)))) := by
  induction icons with
  | nil =>
      rw [List.flatMap_nil, allTokens_nil]
      exact .nil
  | cons icon rest ih =>
      have hfirst := reads_constantLayout htype icon
      rw [List.flatMap_cons, allTokens_append]
      cases rest with
      | nil =>
          rw [List.flatMap_nil, allTokens_nil, List.append_nil]
          exact hfirst
      | cons next more =>
          have hrest := Layout.Reads.line lineReads_blank ih
          rw [List.nil_append] at hrest
          exact hfirst.append hrest

/-! ## The path of a type -/

/-- A path: words, possibly empty ones, set apart by double colons. -/
def IsPath (text : String) : Prop :=
  ∃ words : List String, words ≠ [] ∧ (∀ word ∈ words, ∀ c ∈ word.toList, isWordChar c = true)
    ∧ text = joinWith "::" words

theorem isPath_of_isWord {word : String} (h : IsWord word) : IsPath word := by
  refine ⟨[word], List.cons_ne_nil _ _, ?_, ?_⟩
  · intro other hother
    rw [List.mem_singleton.mp hother]
    exact h.chars
  · rw [joinWith, String.intercalate_singleton]

/-- The atoms of a path. -/
def pathAtoms : List String → List Atom
  | [] => []
  | [word] => wordAtoms word
  | word :: words => wordAtoms word ++ [.mark ':', .mark ':'] ++ pathAtoms words

theorem scan_path_before {words : List String}
    (hwords : ∀ word ∈ words, ∀ c ∈ word.toList, isWordChar c = true) {behind : List Char}
    {found : List Token} {last : Mode} (hhead : behind.head?.map isWordChar = some false)
    (hbehind : scan .between behind = some (found, last)) :
    scan .between ((joinWith "::" words).toList ++ behind)
      = some ((pathAtoms words).map Token.atom ++ found, last) := by
  induction words with
  | nil => exact hbehind
  | cons word rest ih =>
      have hword := hwords word (List.mem_cons_self ..)
      cases rest with
      | nil =>
          rw [joinWith, String.intercalate_singleton]
          exact scan_chars_before hword hhead hbehind
      | cons next more =>
          have hrest := ih fun w hw => hwords w (List.mem_cons_of_mem _ hw)
          have hcolons : scan .between "::".toList
              = some ([.atom (.mark ':'), .atom (.mark ':')], .between) := rfl
          have hall := scan_chars_before hword rfl (scan_append_eq hcolons hrest)
          rw [joinWith_cons_cons, List.append_assoc, List.append_assoc, hall]
          simp [pathAtoms]

theorem newline_not_mem_path {words : List String}
    (hwords : ∀ word ∈ words, ∀ c ∈ word.toList, isWordChar c = true) :
    '\n' ∉ (joinWith "::" words).toList := by
  induction words with
  | nil => exact List.not_mem_nil
  | cons word rest ih =>
      have hword := newline_not_mem_chars (hwords word (List.mem_cons_self ..))
      cases rest with
      | nil =>
          rw [joinWith, String.intercalate_singleton]
          exact hword
      | cons next more =>
          have hrest := ih fun w hw => hwords w (List.mem_cons_of_mem _ hw)
          rw [joinWith_cons_cons, List.mem_append, List.mem_append, not_or, not_or]
          exact ⟨hword, by decide, hrest⟩

theorem semicolon_not_mem_pathAtoms (words : List String) : .mark ';' ∉ pathAtoms words := by
  have hword : ∀ text, .mark ';' ∉ wordAtoms text := by
    intro text
    rw [wordAtoms]
    split <;> simp
  fun_induction pathAtoms words with
  | case1 => exact List.not_mem_nil
  | case2 word => exact hword word
  | case3 word words _ ih => simp [hword word, ih]

/-- Up to its first double colon, a text without colons in front of it. -/
theorem beforeColons_append {front : List Char} (h : ':' ∉ front) (behind : List Char) :
    beforeColons (front ++ ':' :: ':' :: behind) = front := by
  induction front with
  | nil => rfl
  | cons c rest ih =>
      have hc : c ≠ ':' := fun he => h (he ▸ List.mem_cons_self ..)
      have hrest : ':' ∉ rest := fun hmem => h (List.mem_cons_of_mem _ hmem)
      rw [List.cons_append, beforeColons, ih hrest]
      exact fun _ he _ => hc he

theorem beforeColons_of_not_mem {cs : List Char} (h : ':' ∉ cs) : beforeColons cs = cs := by
  induction cs with
  | nil => rfl
  | cons c rest ih =>
      have hc : c ≠ ':' := fun he => h (he ▸ List.mem_cons_self ..)
      have hrest : ':' ∉ rest := fun hmem => h (List.mem_cons_of_mem _ hmem)
      rw [beforeColons, ih hrest]
      exact fun _ he _ => hc he

/-- The name of the type at the end of a path is made of word characters. -/
theorem typeName_chars {iconType : String} (h : IsPath iconType) :
    ∀ c ∈ (typeName iconType).toList, isWordChar c = true := by
  obtain ⟨words, hne, hwords, rfl⟩ := h
  obtain ⟨front, last, rfl⟩ : ∃ front last, words = front ++ [last] :=
    ⟨words.dropLast, words.getLast hne, (List.dropLast_concat_getLast hne).symm⟩
  have hlast := hwords last (by simp)
  have hcolon : ':' ∉ last.toList.reverse := by
    intro hmem
    exact absurd (hlast _ (List.mem_reverse.mp hmem)) (by decide)
  have hname : typeName (joinWith "::" (front ++ [last])) = last := by
    rw [typeName, afterColons]
    by_cases hfront : front = []
    -- a bare name has no colons to look for
    · subst hfront
      rw [List.nil_append, joinWith, String.intercalate_singleton,
        beforeColons_of_not_mem hcolon, List.reverse_reverse, String.ofList_toList]
    · rw [joinWith, String.intercalate_append_of_ne_nil hfront (List.cons_ne_nil _ _),
        String.intercalate_singleton, String.toList_append, String.toList_append,
        List.reverse_append, List.reverse_append]
      show String.ofList (beforeColons (last.toList.reverse ++ ':' :: ':' :: _)).reverse = _
      rw [beforeColons_append hcolon, List.reverse_reverse, String.ofList_toList]
  rw [hname]
  exact hlast

/-! ## The whole file -/

/-- The trees of the import of a type, unless its name is bare. -/
def importTrees (iconType : String) (words : List String) : List TokenTree :=
  if hasColons iconType.toList then
    .leaf (.word "use") :: ((pathAtoms words).map TokenTree.leaf ++ [.leaf (.mark ';')])
  else []

theorem reads_importLayout {words : List String}
    (hwords : ∀ word ∈ words, ∀ c ∈ word.toList, isWordChar c = true) :
    Layout.Reads (importLayout (joinWith "::" words))
      (TokenTree.allTokens (importTrees (joinWith "::" words) words)) := by
  by_cases hcolons : hasColons (joinWith "::" words).toList = true
  · have hsemicolon : scan .between (";".toList ++ ['\n']) = some ([.atom (.mark ';')], .between) :=
      rfl
    have huse : scan .between "use ".toList = some ([.atom (.word "use")], .between) := rfl
    have hline : LineReads ("use " ++ joinWith "::" words ++ ";")
        (.atom (.word "use") :: ((pathAtoms words).map Token.atom ++ [.atom (.mark ';')])) := by
      refine ⟨isLine_append ?_ (by decide) rfl (by decide), ?_⟩
      · simp only [String.toList_append, List.mem_append, not_or]
        refine ⟨by decide, ?_⟩
        exact newline_not_mem_path hwords
      · simp only [String.toList_append, List.append_assoc]
        exact scan_append_eq huse (scan_path_before hwords rfl hsemicolon)
    rw [importLayout, if_pos hcolons, importTrees, if_pos hcolons]
    simpa [Layout.blank, allTokens_append, allTokens_leaves] using
      Layout.Reads.line hline (.line lineReads_blank .nil)
  · rw [importLayout, if_neg hcolons, importTrees, if_neg hcolons, allTokens_nil]
    exact .nil

/-- Read line by line, a module is its name and the trees of its body. -/
theorem reads_moduleLayout {name : String} (hname : IsWord name) {body : List Layout}
    {trees : List TokenTree} (hbody : Layout.Reads body (TokenTree.allTokens trees)) :
    Layout.Reads [moduleLayout name body] (TokenTree.allTokens (moduleTrees name trees)) := by
  have hbrace : scan .between (" \x7b".toList ++ ['\n']) = some ([.opening .curly], .between) := rfl
  have hfront : scan .between "pub mod ".toList
      = some ([.atom (.word "pub"), .atom (.word "mod")], .between) := rfl
  have hopening : LineReads ("pub mod " ++ name ++ " \x7b")
      [.atom (.word "pub"), .atom (.word "mod"), .atom (.word name), .opening .curly] := by
    refine ⟨isLine_append ?_ (by decide) rfl (by decide), ?_⟩
    · simp only [String.toList_append, List.mem_append, not_or]
      exact ⟨by decide, newline_not_mem_chars hname.chars⟩
    · simp only [String.toList_append, List.append_assoc]
      exact scan_append_eq hfront (scan_word_before hname rfl hbrace)
  have hclosing : LineReads "\x7d" [.closing .curly] := ⟨⟨by decide, by decide⟩, rfl⟩
  rw [moduleLayout]
  simpa [moduleTrees] using Layout.Reads.block hopening hbody hclosing .nil

/-- Read line by line, nested modules are their names around the trees of the
    innermost body. -/
theorem reads_nest {name : String} (hname : IsWord name) {body : List Layout}
    {trees : List TokenTree} (hbody : Layout.Reads body (TokenTree.allTokens trees))
    {segments : List String} (hsegments : ∀ segment ∈ segments, IsWord segment) :
    Layout.Reads (nest name body segments)
      (TokenTree.allTokens (nestTrees name trees segments)) := by
  induction segments with
  | nil =>
      have hattribute : LineReads "#[allow(non_upper_case_globals)]"
          (TokenTree.allTokens attributeTrees) := ⟨⟨by decide, by decide⟩, rfl⟩
      rw [nest, nestTrees, allTokens_append]
      exact .line hattribute (reads_moduleLayout hname hbody)
  | cons segment rest ih =>
      have hrest := ih fun s hs => hsegments s (List.mem_cons_of_mem _ hs)
      rw [nest, nestTrees]
      exact reads_moduleLayout (hsegments segment (List.mem_cons_self ..)) hrest

/-- The trees of a whole file. -/
def fileTrees (container : Container) (iconType : String) (words : List String)
    (icons : List Icon) : List TokenTree :=
  nestTrees container.name
    (importTrees iconType words
      ++ icons.flatMap (constantTrees (wordAtoms (typeName iconType))))
    container.segments

/-- Read line by line, a file is its modules around its constants. -/
theorem reads_fileLayout {container : Container} (hname : IsWord container.name)
    (hsegments : ∀ segment ∈ container.segments, IsWord segment) {words : List String}
    (hne : words ≠ []) (hwords : ∀ word ∈ words, ∀ c ∈ word.toList, isWordChar c = true)
    (icons : List Icon) :
    Layout.Reads (fileLayout container (joinWith "::" words) icons)
      (TokenTree.allTokens (fileTrees container (joinWith "::" words) words icons)) := by
  have htype := typeName_chars ⟨words, hne, hwords, rfl⟩
  have hbody := (reads_importLayout hwords).append (reads_constants htype icons)
  rw [← allTokens_append] at hbody
  have hbanner : LineReads banner [] := ⟨⟨by decide, by decide⟩, by decide⟩
  exact .line hbanner (.line lineReads_blank (reads_nest hname hbody hsegments))

theorem behindSemicolon_leaves {atoms : List Atom} (h : .mark ';' ∉ atoms)
    (rest : List TokenTree) :
    behindSemicolon (atoms.map TokenTree.leaf ++ .leaf (.mark ';') :: rest) = rest := by
  induction atoms with
  | nil => rfl
  | cons atom atoms ih =>
      have hatom : ¬ atom = .mark ';' := fun he => h (he ▸ List.mem_cons_self ..)
      rw [List.map_cons, List.cons_append, behindSemicolon, if_neg hatom]
      exact ih fun hmem => h (List.mem_cons_of_mem _ hmem)

/-- Without the import, the items of a module are its constants. -/
theorem dropImport_importTrees (iconType : String) (words : List String)
    (typeAtoms : List Atom) (icons : List Icon) :
    dropImport (importTrees iconType words ++ icons.flatMap (constantTrees typeAtoms))
      = icons.flatMap (constantTrees typeAtoms) := by
  by_cases hcolons : hasColons iconType.toList = true
  · rw [importTrees, if_pos hcolons, List.cons_append, dropImport, if_pos rfl,
      List.append_assoc]
    exact behindSemicolon_leaves (semicolon_not_mem_pathAtoms words) _
  -- a constant begins with `pub`, which is not taken for an import
  · rw [importTrees, if_neg hcolons, List.nil_append]
    cases icons with
    | nil => rfl
    | cons icon rest => rfl

/-- What is told of a file: its modules and its declarations. -/
def sourceFileOf (container : Container) (icons : List Icon) : SourceFile where
  segments := container.segments
  container := container.name
  declarations := icons.map declarationOf

/-- The trees of a file are read back as what the file is about. -/
theorem sourceFile?_fileTrees (container : Container) (iconType : String) (words : List String)
    (icons : List Icon) :
    sourceFile? (fileTrees container iconType words icons)
      = some (sourceFileOf container icons) := by
  refine sourceFile?_nestTrees _ ?_ _
  rw [dropImport_importTrees]
  exact declarations?_flatMap _ icons

/-- The tokens of a rendered text are those of the trees of the file. -/
theorem tokens?_sourceText {container : Container} (hname : IsWord container.name)
    (hsegments : ∀ segment ∈ container.segments, IsWord segment) {words : List String}
    (hne : words ≠ []) (hwords : ∀ word ∈ words, ∀ c ∈ word.toList, isWordChar c = true)
    (icons : List Icon) :
    tokens? (sourceText container (joinWith "::" words) icons)
      = some (TokenTree.allTokens (fileTrees container (joinWith "::" words) words icons)) := by
  rw [tokens?, sourceText, String.toList_ofList,
    scan_renderAll (reads_fileLayout hname hsegments hne hwords icons) 0]

/-- A rendered text is decoded to its modules and the declarations of its icons. -/
theorem decode?_sourceText {container : Container} (hname : IsWord container.name)
    (hsegments : ∀ segment ∈ container.segments, IsWord segment) {iconType : String}
    (htype : IsPath iconType) (icons : List Icon) :
    decode? (sourceText container iconType icons) = some (sourceFileOf container icons) := by
  obtain ⟨words, hne, hwords, rfl⟩ := htype
  rw [decode?, tokens?_sourceText hname hsegments hne hwords, Option.bind_some,
    trees?_allTokens, Option.bind_some]
  exact sourceFile?_fileTrees container _ words icons

/-- Icons rendered into a container whose modules have usable names make a text
    that is decoded to these modules and, in order, to the declarations of the
    icons.  Its brackets are closed in nesting order, a writer comes back to the
    outermost depth and writes each line as one physical line, and other icons
    give the same text only if their declarations are the same. -/
theorem rendering_decodes (container : Container) (iconType : String) (icons : List Icon)
    (hname : isValid container.name = true)
    (hsegments : ∀ segment ∈ container.segments, isValid segment = true)
    (htype : IsPath iconType) (hicons : icons ≠ []) :
    ∃ text found,
      Rendering.ofIcons container iconType icons
          = .source text icons (icons.filterMap renamed?)
        ∧ decode? text
          = some ⟨container.segments, container.name, icons.map declarationOf⟩
        ∧ tokens? text = some found
        ∧ closesInOrder [] found = true
        ∧ Writer.actAll ⟨[], 0⟩ (Layout.allActs (fileLayout container iconType icons))
          = ⟨text.toList, 0⟩
        ∧ (∀ line, Act.line line ∈ Layout.allActs (fileLayout container iconType icons) →
            ∀ depth, ∃ content, renderText depth line = content ++ ['\n'] ∧ '\n' ∉ content)
        ∧ ∀ others diagnostics,
            Rendering.ofIcons container iconType others = .source text others diagnostics →
              others.map declarationOf = icons.map declarationOf := by
  have hword := isWord_of_isValid hname
  have hwords : ∀ segment ∈ container.segments, IsWord segment :=
    fun segment hs => isWord_of_isValid (hsegments segment hs)
  have hdecode := decode?_sourceText hword hwords htype
  obtain ⟨words, hne, hchars, rfl⟩ := htype
  have hreads := reads_fileLayout hword hwords hne hchars icons
  have hempty : ¬ icons.isEmpty = true := fun h => hicons (List.isEmpty_iff.mp h)
  refine ⟨sourceText container (joinWith "::" words) icons, _, ?_, hdecode icons,
    tokens?_sourceText hword hwords hne hchars icons, ?_, ?_, ?_, ?_⟩
  · rw [Rendering.ofIcons, if_neg hempty]
  · have hclosed := closesInOrder_allTokens
      (fileTrees container (joinWith "::" words) words icons) [] []
    rw [List.append_nil] at hclosed
    exact hclosed
  · rw [actAll_allActs, sourceText, String.toList_ofList]
    rfl
  · intro line hline depth
    exact physical_line (isLine_of_reads hreads line hline) depth
  -- both texts are decoded, so equal texts have equal declarations
  · intro others diagnostics hothers
    have htext : sourceText container (joinWith "::" words) others
        = sourceText container (joinWith "::" words) icons := by
      rw [Rendering.ofIcons] at hothers
      split at hothers
      · exact absurd hothers (by simp)
      · simp only [Rendering.source.injEq] at hothers
        exact hothers.1
    have hsame := hdecode others
    rw [htext, hdecode icons] at hsame
    simp only [sourceFileOf, Option.some.injEq, SourceFile.mk.injEq] at hsame
    exact hsame.2.2.symm

/-- Two icons of one identifier, one with quotes, braces and line breaks in its
    texts, inside two modules. -/
theorem rendering_decodes_nested :
    isValid "lucide" = true ∧ (∀ segment ∈ ["ui", "widgets"], isValid segment = true)
      ∧ IsPath "crate::icon::Icon"
      ∧ ∃ text icons diagnostics,
          Rendering.ofIcons ⟨some "ui:: widgets", "lucide"⟩ "crate::icon::Icon"
              [⟨"a-b", "\"\x7b\\", .ofPairs [("k", "\r\n")], "\x7d;\n"⟩, ⟨"a-b", "", .empty, ""⟩]
            = .source text icons diagnostics
          ∧ decode? text
            = some ⟨["ui", "widgets"], "lucide",
                [⟨"a_b", "\"\x7b\\", [("k", "\r\n")], "\x7d;\n"⟩, ⟨"a_b", "", [], ""⟩]⟩ := by
  have hname : isValid "lucide" = true := by decide
  have hsegments : ∀ segment ∈ ["ui", "widgets"], isValid segment = true := by decide
  have hpath : IsPath "crate::icon::Icon" := by
    refine ⟨["crate", "icon", "Icon"], List.cons_ne_nil _ _, ?_, by decide⟩
    have hall : (["crate", "icon", "Icon"].all fun word => word.toList.all isWordChar) = true := by
      decide
    intro word hword
    exact List.all_eq_true.mp (List.all_eq_true.mp hall word hword)
  have hcontainer : Container.segments ⟨some "ui:: widgets", "lucide"⟩ = ["ui", "widgets"] := by
    decide
  obtain ⟨text, found, htext, hdecode, -⟩ := rendering_decodes ⟨some "ui:: widgets", "lucide"⟩
    "crate::icon::Icon"
    [⟨"a-b", "\"\x7b\\", .ofPairs [("k", "\r\n")], "\x7d;\n"⟩, ⟨"a-b", "", .empty, ""⟩]
    hname (by rw [hcontainer]; exact hsegments) hpath (List.cons_ne_nil _ _)
  refine ⟨hname, hsegments, hpath, text, _, _, htext, ?_⟩
  rw [hdecode, hcontainer]
  have hconstant : constantName "a-b" = "a_b" := by decide
  simp only [List.map_cons, List.map_nil, declarationOf, hconstant]
  rfl

end IconCompiler.Source
