import IconCompiler.Proofs.Markup.Attributes
import IconCompiler.Proofs.Markup.Cutting
import IconCompiler.Proofs.Markup.Names
import IconCompiler.Proofs.Markup.References

/-! # Written tags

    A tag whose name and keys are names without colons and whose values are
    escaped is cut off in one piece, and gives the element back that it was
    written for: the same name, and the same attributes in the same order
    (`ofTag_written`), but for a declaration of the default namespace. -/

namespace IconCompiler.Markup

open Reference

/-- One attribute as it is written, with the blank in front of it. -/
def writtenPair (escape : Char → List Char) (entry : String × String) : List Char :=
  ' ' :: (entry.1.toList ++ '=' :: '"' :: (entry.2.toList.flatMap escape ++ ['"']))

/-- Attributes as they are written. -/
def written (escape : Char → List Char) (entries : List (String × String)) : List Char :=
  entries.flatMap (writtenPair escape)

theorem toList_renderAttribute (entry : String × String) :
    (renderAttribute entry).toList = writtenPair escapeChar entry := by
  simp [renderAttribute, escapeValue, writtenPair]

theorem toList_renderAttribute_icon (entry : String × String) :
    (SvgIcon.renderAttribute entry).toList = writtenPair SvgIcon.escapeChar entry := by
  simp [SvgIcon.renderAttribute, writtenPair]

/-- Attributes are written one behind the other. -/
theorem toList_join_map {render : String × String → String} {escape : Char → List Char}
    (h : ∀ entry, (render entry).toList = writtenPair escape entry)
    (entries : List (String × String)) :
    (String.join (entries.map render)).toList = written escape entries := by
  rw [String.toList_join, List.flatMap_map, written]
  exact congrArg (List.flatMap · entries) (funext h)

/-! ## The form of a written tag -/

section

variable {escape : Char → List Char} (hescape : IsEscape escape) {name : List Char}
  (hname : isPlainName name = true) {entries : List (String × String)}
  (hkeys : ∀ entry ∈ entries, isPlainName entry.1.toList = true)

theorem skips_name (hname : isPlainName name = true) : Skips name := by
  refine skips_plain ?_
  intro c hc
  have hchar := isNameChar_of_isPlainName hname c hc
  exact ⟨ne_of_isNameChar hchar (by decide), ne_of_isNameChar hchar (by decide),
    ne_of_isNameChar hchar (by decide)⟩

include hescape hkeys in
theorem skips_written : Skips (written escape entries) := by
  induction entries with
  | nil => exact skips_plain (by simp [written])
  | cons entry entries ih =>
      have hrest := ih fun other hother => hkeys other (List.mem_cons_of_mem entry hother)
      rw [written, List.flatMap_cons]
      refine Skips.append ?_ hrest
      have hblank : Skips [' '] := skips_plain (by simp)
      have hequals : Skips ['='] := skips_plain (by simp)
      have hkey := skips_name (hkeys entry List.mem_cons_self)
      have hvalue := skips_quoted (hescape.no_quote_value entry.2.toList)
      have hall := ((hblank.append hkey).append hequals).append hvalue
      simpa [writtenPair] using hall

theorem isSpace_of_head?_written {c : Char} (h : (written escape entries).head? = some c) :
    isSpace c = true := by
  cases entries with
  | nil => exact absurd h (by simp [written])
  | cons entry entries =>
      have hblank : ' ' = c := by simpa [written, writtenPair] using h
      rw [← hblank]
      rfl

theorem getLast?_written : (written escape entries).getLast? ≠ some '/' := by
  rcases List.eq_nil_or_concat entries with rfl | ⟨front, entry, rfl⟩
  · simp [written]
  · simp [written, writtenPair, List.getLast?_append, List.getLast?_cons]

include hname in
/-- The name of a tag ends where its attributes begin. -/
theorem ofContent_append {rest : List Char}
    (hrest : ∀ c, rest.head? = some c → isSpace c = true) :
    Tag.ofContent (name ++ rest) = ⟨name, rest⟩ := by
  have hall : ∀ c ∈ name, (fun c => !isSpace c) c = true := by
    intro c hc
    simp [isSpace_of_isNameChar (isNameChar_of_isPlainName hname c hc)]
  rw [Tag.ofContent, List.takeWhile_append_of_pos hall, List.dropWhile_append_of_pos hall]
  cases rest with
  | nil => simp
  | cons c rest =>
      have hc := hrest c rfl
      simp [hc]

/-- A tag is cut off in one piece if what follows its name leaves no quote open. -/
theorem firstLexeme?_named {content : List Char} (hname : isPlainName name = true)
    (hcontent : Skips content) (rest : List Char) :
    firstLexeme? ('<' :: (name ++ content ++ '>' :: rest))
      = some (.tag (name ++ content), rest) := by
  have hskips := (skips_name hname).append hcontent
  obtain ⟨first, more, rfl, hfirst⟩ := exists_eq_cons_of_isPlainName hname
  exact firstLexeme?_tag (ne_of_isNameChar hfirst (by decide))
    (ne_of_isNameChar hfirst (by decide)) hskips rest

/-! ## The event of a written tag -/

include hname in
/-- A name in front decides that a tag does not close an element. -/
theorem ofTag_of_name {openNames : List (List Char)} (rest : List Char) :
    Event.ofTag openNames (name ++ rest)
      = if (name ++ rest).getLast? = some '/' then
          .ok (.empty (Tag.ofContent (name ++ rest).dropLast), openNames)
        else
          .ok (.start (Tag.ofContent (name ++ rest)),
            (Tag.ofContent (name ++ rest)).name :: openNames) := by
  obtain ⟨first, more, rfl, hfirst⟩ := exists_eq_cons_of_isPlainName hname
  have hslash : first ≠ '/' := ne_of_isNameChar hfirst (by decide)
  rw [List.cons_append, Event.ofTag]
  simp [hslash]

include hname in
theorem ofTag_start (openNames : List (List Char)) :
    Event.ofTag openNames (name ++ written escape entries)
      = .ok (.start ⟨name, written escape entries⟩, name :: openNames) := by
  have hlast : (name ++ written escape entries).getLast? ≠ some '/' := by
    rw [List.getLast?_append]
    cases hwritten : (written escape entries).getLast? with
    | none =>
        rw [Option.none_or]
        intro hlast
        exact not_mem_of_isPlainName hname (by decide) (List.mem_of_getLast? hlast)
    | some c =>
        rw [Option.some_or, ← hwritten]
        exact getLast?_written
  rw [ofTag_of_name hname, if_neg hlast,
    ofContent_append hname fun c hc => isSpace_of_head?_written hc]

include hname in
theorem ofTag_empty (openNames : List (List Char)) :
    Event.ofTag openNames (name ++ (written escape entries ++ [' ', '/']))
      = .ok (.empty ⟨name, written escape entries ++ [' ']⟩, openNames) := by
  have hlast : (name ++ (written escape entries ++ [' ', '/'])).getLast? = some '/' := by simp
  have hdrop : (name ++ (written escape entries ++ [' ', '/'])).dropLast
      = name ++ (written escape entries ++ [' ']) := by
    rw [← List.append_assoc, ← List.append_assoc, List.dropLast_append_cons]
    rfl
  have hhead : ∀ c, (written escape entries ++ [' ']).head? = some c → isSpace c = true := by
    intro c hc
    rw [List.head?_append] at hc
    cases hwritten : (written escape entries).head? with
    | none =>
        rw [hwritten] at hc
        rw [← Option.some.inj hc]
        rfl
    | some d =>
        rw [hwritten] at hc
        rw [← Option.some.inj hc]
        exact isSpace_of_head?_written hwritten
  rw [ofTag_of_name hname, if_pos hlast, hdrop, ofContent_append hname hhead]

include hname in
theorem closingName_of_isPlainName : closingName name = name := by
  have hplain : ∀ c ∈ name, isSpace c = false := by
    intro c hc
    exact isSpace_of_isNameChar (isNameChar_of_isPlainName hname c hc)
  obtain ⟨first, more, hcons, -⟩ := exists_eq_cons_of_isPlainName hname
  have hall : ¬ name.all isSpace = true := by
    rw [List.all_eq_true]
    intro hall
    have hfirst : first ∈ name := hcons ▸ List.mem_cons_self
    exact absurd ((hplain first hfirst).symm.trans (hall first hfirst)) Bool.false_ne_true
  -- no blanks are cut off at the end, for the last character is none
  have hdrop : name.reverse.dropWhile isSpace = name.reverse := by
    cases hreverse : name.reverse with
    | nil => rfl
    | cons last front =>
        have hlast : last ∈ name := List.mem_reverse.mp (hreverse ▸ List.mem_cons_self)
        rw [List.dropWhile_cons_of_neg (by simp [hplain last hlast])]
  rw [closingName, if_neg hall, hdrop, List.reverse_reverse]

include hname in
theorem ofTag_close (outer : List (List Char)) :
    Event.ofTag (name :: outer) ('/' :: name) = .ok (.close, outer) := by
  rw [Event.ofTag, closingName_of_isPlainName hname, if_pos rfl]

/-! ## The attributes of a written tag -/

theorem attributesFrom_space {c : Char} (hc : isSpace c = true) (seen : List RawAttribute)
    (position : Nat) (rest : List Char) :
    Tag.attributesFrom seen position (c :: rest) = Tag.attributesFrom seen (position + 1) rest := by
  rw [Tag.attributesFrom, if_pos hc]

theorem attributesFrom_spaces {tail : List Char} (htail : ∀ c ∈ tail, isSpace c = true)
    (seen : List RawAttribute) (position : Nat) :
    Tag.attributesFrom seen position tail = ([], none) := by
  induction tail generalizing position with
  | nil => rw [Tag.attributesFrom]
  | cons c tail ih =>
      rw [attributesFrom_space (htail c List.mem_cons_self)]
      exact ih (fun d hd => htail d (List.mem_cons_of_mem c hd)) (position + 1)

/-- A key ends at the equals sign. -/
theorem takeWhile_key {more : List Char} (hmore : ∀ c ∈ more, Tag.isKeyChar c = true)
    (behind : List Char) : (more ++ '=' :: behind).takeWhile Tag.isKeyChar = more := by
  rw [List.takeWhile_append_of_pos hmore, List.takeWhile_cons_of_neg (by decide), List.append_nil]

theorem dropWhile_key {more : List Char} (hmore : ∀ c ∈ more, Tag.isKeyChar c = true)
    (behind : List Char) :
    (more ++ '=' :: behind).dropWhile Tag.isKeyChar = '=' :: behind := by
  rw [List.dropWhile_append_of_pos hmore, List.dropWhile_cons_of_neg (by decide)]

/-- Reading ends at a key that was read before. -/
theorem attributesFrom_seen {seen : List RawAttribute} {earlier : RawAttribute} {first : Char}
    {more : List Char} (hfirst : isSpace first = false)
    (hmore : ∀ c ∈ more, Tag.isKeyChar c = true)
    (hseen : seen.find? (·.key == first :: more) = some earlier) (position : Nat)
    (behind : List Char) :
    Tag.attributesFrom seen position (first :: (more ++ '=' :: behind))
      = ([], some (.repeatedKey position earlier.position)) := by
  rw [Tag.attributesFrom, if_neg (by simp [hfirst])]
  dsimp only
  rw [takeWhile_key hmore, dropWhile_key hmore]
  split
  · rw [hseen]
  · next hne =>
      rw [List.dropWhile_cons_of_neg (by decide)] at hne
      exact absurd rfl (hne _)

/-- Reading a key that is new, an equals sign and a value in quotes. -/
theorem attributesFrom_key {seen : List RawAttribute} {first : Char} {more value : List Char}
    (hfirst : isSpace first = false) (hmore : ∀ c ∈ more, Tag.isKeyChar c = true)
    (hnew : seen.find? (·.key == first :: more) = none) (hvalue : '"' ∉ value) (position : Nat)
    (rest : List Char) :
    ∃ next, Tag.attributesFrom seen position
        (first :: (more ++ '=' :: '"' :: (value ++ '"' :: rest)))
      = (⟨position, first :: more, value⟩
          :: (Tag.attributesFrom (seen ++ [⟨position, first :: more, value⟩]) next rest).1,
        (Tag.attributesFrom (seen ++ [⟨position, first :: more, value⟩]) next rest).2) := by
  -- the value ends at the next quote
  have hcut : cutAt? ['"'] (value ++ '"' :: rest) = some (value, rest) := by
    refine cutAt?_append [] List.not_mem_nil ?_ rest
    intro hoccurs
    exact hvalue (hoccurs.subset List.mem_cons_self)
  rw [Tag.attributesFrom, if_neg (by simp [hfirst])]
  dsimp only
  rw [takeWhile_key hmore, dropWhile_key hmore]
  split
  · next behindEquals hequals =>
      rw [List.dropWhile_cons_of_neg (by decide)] at hequals
      obtain ⟨-, rfl⟩ := List.cons.inj hequals
      rw [hnew]
      dsimp only
      split
      · next hquote =>
          rw [List.dropWhile_cons_of_neg (by decide)] at hquote
          exact absurd hquote (List.cons_ne_nil _ _)
      · next quote behindQuote hquote =>
          rw [List.dropWhile_cons_of_neg (by decide)] at hquote
          obtain ⟨rfl, rfl⟩ := List.cons.inj hquote
          rw [if_pos (.inl rfl)]
          split
          · next hnone =>
              rw [hcut] at hnone
              exact absurd hnone (by simp)
          · next text after hsome =>
              rw [hcut] at hsome
              obtain ⟨rfl, rfl⟩ := Prod.mk.inj (Option.some.inj hsome)
              exact ⟨_, rfl⟩
  · next hne =>
      rw [List.dropWhile_cons_of_neg (by decide)] at hne
      exact absurd rfl (hne _)

/-- A name is a key, whatever is written for its value. -/
theorem exists_writtenPair_eq {entry : String × String}
    (hkey : isPlainName entry.1.toList = true) (rest : List Char) :
    ∃ first more, entry.1.toList = first :: more ∧ isSpace first = false
      ∧ (∀ c ∈ more, Tag.isKeyChar c = true)
      ∧ writtenPair escape entry ++ rest = ' ' :: first
        :: (more ++ '=' :: '"' :: (entry.2.toList.flatMap escape ++ '"' :: rest)) := by
  obtain ⟨first, more, hcons, hfirst⟩ := exists_eq_cons_of_isPlainName hkey
  refine ⟨first, more, hcons, isSpace_of_isNameChar hfirst, ?_, ?_⟩
  · intro c hc
    have hchar := isNameChar_of_isPlainName hkey c (hcons ▸ List.mem_cons_of_mem first hc)
    simp [Tag.isKeyChar, isSpace_of_isNameChar hchar,
      ne_of_isNameChar hchar (d := '=') (by decide)]
  · simp [writtenPair, hcons]

include hescape in
theorem attributesFrom_pair {seen : List RawAttribute} {entry : String × String}
    (hkey : isPlainName entry.1.toList = true) (hnew : ∀ raw ∈ seen, raw.key ≠ entry.1.toList)
    (position : Nat) (rest : List Char) :
    ∃ found next, found.key = entry.1.toList ∧ found.value = entry.2.toList.flatMap escape
      ∧ Tag.attributesFrom seen position (writtenPair escape entry ++ rest)
        = (found :: (Tag.attributesFrom (seen ++ [found]) next rest).1,
          (Tag.attributesFrom (seen ++ [found]) next rest).2) := by
  obtain ⟨first, more, hcons, hfirst, hmore, hform⟩ := exists_writtenPair_eq hkey rest
  have hfind : seen.find? (·.key == first :: more) = none := by
    rw [List.find?_eq_none, ← hcons]
    intro raw hraw
    simpa using hnew raw hraw
  obtain ⟨next, hread⟩ := attributesFrom_key hfirst hmore hfind
    (hescape.no_quote_value entry.2.toList) (position + 1) rest
  rw [hform, attributesFrom_space rfl, hread]
  exact ⟨_, next, hcons.symm, rfl, rfl⟩

include hescape in
/-- Written attributes with distinct keys are read back in their order. -/
theorem attributesFrom_written {tail : List Char} (htail : ∀ c ∈ tail, isSpace c = true)
    (entries : List (String × String)) (seen : List RawAttribute) (position : Nat)
    (hkeys : ∀ entry ∈ entries, isPlainName entry.1.toList = true)
    (hnodup : (entries.map Prod.fst).Nodup)
    (hnew : ∀ raw ∈ seen, ∀ entry ∈ entries, raw.key ≠ entry.1.toList) :
    ∃ raws, Tag.attributesFrom seen position (written escape entries ++ tail) = (raws, none)
      ∧ raws.map (fun raw => (raw.key, raw.value))
        = entries.map fun entry => (entry.1.toList, entry.2.toList.flatMap escape) := by
  induction entries generalizing seen position with
  | nil =>
      refine ⟨[], ?_, rfl⟩
      rw [written, List.flatMap_nil, List.nil_append]
      exact attributesFrom_spaces htail seen position
  | cons entry entries ih =>
      rw [List.map_cons, List.nodup_cons] at hnodup
      obtain ⟨found, next, hkey, hvalue, hread⟩ := attributesFrom_pair hescape
        (hkeys entry List.mem_cons_self) (fun raw hraw => hnew raw hraw entry List.mem_cons_self)
        position (written escape entries ++ tail)
      -- a key that was already seen would end the reading with an error
      have hseen : ∀ raw ∈ seen ++ [found], ∀ other ∈ entries, raw.key ≠ other.1.toList := by
        intro raw hraw other hother
        rcases List.mem_append.mp hraw with hold | hfound
        · exact hnew raw hold other (List.mem_cons_of_mem entry hother)
        · rw [List.mem_singleton.mp hfound, hkey]
          intro hsame
          refine hnodup.1 (List.mem_map.mpr ⟨other, hother, ?_⟩)
          exact (String.toList_inj.mp hsame).symm
      obtain ⟨raws, hraws, hmap⟩ := ih (seen ++ [found]) next
        (fun other hother => hkeys other (List.mem_cons_of_mem entry hother)) hnodup.2 hseen
      refine ⟨found :: raws, ?_, ?_⟩
      · rw [written, List.flatMap_cons, List.append_assoc, ← written, hread, hraws]
      · rw [List.map_cons, List.map_cons, hmap, hkey, hvalue]

/-- The attributes that an element keeps of written ones. -/
def keptEntries (entries : List (String × String)) : List (String × String) :=
  entries.filter fun entry => entry.1 != "xmlns"

include hescape in
/-- An attribute under a plain name that is new is taken over with the value it
    denotes, unless it declares the default namespace. -/
theorem addAttribute_pair {raw : RawAttribute} {entry : String × String}
    (attributes : AttributeMap) (hkey : isPlainName entry.1.toList = true)
    (hnew : entry.1 ∉ attributes.keys) (hrawkey : raw.key = entry.1.toList)
    (hrawvalue : raw.value = entry.2.toList.flatMap escape) :
    ∃ next, Frame.addAttribute attributes raw = .ok next
      ∧ next.entries = attributes.entries ++ keptEntries [entry] := by
  have hbinding : isNamespaceBinding raw.key = (entry.1 == "xmlns") := by
    rw [hrawkey, isNamespaceBinding_of_isPlainName hkey, Bool.eq_iff_iff, beq_iff_eq, beq_iff_eq]
    show entry.1.toList = "xmlns".toList ↔ entry.1 = "xmlns"
    exact String.toList_inj
  rw [Frame.addAttribute, hbinding]
  by_cases hxmlns : entry.1 = "xmlns"
  -- the declaration is neither kept nor resolved
  · refine ⟨attributes, if_pos (beq_iff_eq.mpr hxmlns), ?_⟩
    simp [keptEntries, hxmlns]
  · have hvalue : Reference.replace raw.value = .ok entry.2.toList := by
      rw [hrawvalue]
      exact replace_eq_ok_iff.mpr (hescape.denotes_value _)
    rw [if_neg (fun he => hxmlns (beq_iff_eq.mp he)), hvalue, hrawkey,
      localName_of_isPlainName hkey]
    dsimp only
    rw [String.ofList_toList, String.ofList_toList, if_neg hnew]
    refine ⟨_, rfl, ?_⟩
    have hkept : keptEntries [entry] = [entry] := by simp [keptEntries, hxmlns]
    rw [hkept]
    exact insertPair_of_not_mem _ hnew

include hescape in
/-- Attributes under plain names are taken over in their order. -/
theorem foldlM_addAttribute {raws : List RawAttribute} (entries : List (String × String))
    (attributes : AttributeMap)
    (hkeys : ∀ entry ∈ entries, isPlainName entry.1.toList = true)
    (hnodup : (entries.map Prod.fst).Nodup)
    (hnew : ∀ entry ∈ entries, entry.1 ∉ attributes.keys)
    (hraws : raws.map (fun raw => (raw.key, raw.value))
      = entries.map fun entry => (entry.1.toList, entry.2.toList.flatMap escape)) :
    ∃ next, raws.foldlM Frame.addAttribute attributes = .ok next
      ∧ next.entries = attributes.entries ++ keptEntries entries := by
  induction entries generalizing raws attributes with
  | nil =>
      obtain rfl := List.map_eq_nil_iff.mp hraws
      exact ⟨attributes, rfl, (List.append_nil _).symm⟩
  | cons entry entries ih =>
      obtain ⟨raw, raws, rfl, hraw, hrest⟩ := List.map_eq_cons_iff.mp hraws
      obtain ⟨hrawkey, hrawvalue⟩ := Prod.mk.inj hraw
      rw [List.map_cons, List.nodup_cons] at hnodup
      obtain ⟨middle, hmiddle, hentries⟩ := addAttribute_pair hescape attributes
        (hkeys entry List.mem_cons_self) (hnew entry List.mem_cons_self) hrawkey hrawvalue
      -- the keys that follow differ from this one, so they stay new
      have hlater : ∀ other ∈ entries, other.1 ∉ middle.keys := by
        intro other hother hmem
        rw [OrderedMap.keys, hentries, List.map_append, List.mem_append] at hmem
        rcases hmem with hold | hadded
        · exact hnew other (List.mem_cons_of_mem entry hother) hold
        · obtain ⟨kept, hkept, hsame⟩ := List.mem_map.mp hadded
          rw [List.mem_singleton.mp (List.mem_filter.mp hkept).1] at hsame
          exact hnodup.1 (List.mem_map.mpr ⟨other, hother, hsame.symm⟩)
      obtain ⟨next, hnext, hall⟩ := ih middle
        (fun other hother => hkeys other (List.mem_cons_of_mem entry hother)) hnodup.2 hlater hrest
      refine ⟨next, ?_, ?_⟩
      · exact foldlM_cons_eq_ok_iff.mpr ⟨middle, hmiddle, hnext⟩
      · rw [hall, hentries, List.append_assoc, keptEntries, keptEntries, keptEntries,
          ← List.filter_append, List.singleton_append]

include hescape in
/-- A written tag opens the element that it was written for. -/
theorem ofTag_written (tail : List Char) {name : List Char} (hname : isPlainName name = true)
    (htail : ∀ c ∈ tail, isSpace c = true)
    (hkeys : ∀ entry ∈ entries, isPlainName entry.1.toList = true)
    (hnodup : (entries.map Prod.fst).Nodup) :
    ∃ frame, Frame.ofTag ⟨name, written escape entries ++ tail⟩ = .ok frame
      ∧ frame.name = String.ofList name ∧ frame.attributes.entries = keptEntries entries
      ∧ frame.children = [] := by
  obtain ⟨raws, hraws, hmap⟩ := attributesFrom_written hescape htail entries [] (byteLength name)
    hkeys hnodup (by simp)
  obtain ⟨attributes, hfold, hentries⟩ := foldlM_addAttribute hescape entries OrderedMap.empty
    hkeys hnodup (by simp [OrderedMap.keys, OrderedMap.empty]) hmap
  refine ⟨⟨String.ofList name, attributes, []⟩, ?_, rfl, hentries, rfl⟩
  rw [Frame.ofTag_eq_ok_iff, Tag.attributes, hraws, localName_of_isPlainName hname]
  exact ⟨rfl, hfold, rfl, rfl⟩

end

end IconCompiler.Markup
