import IconCompiler.Proofs.Disk.Plain
import IconCompiler.Proofs.Text.Split

/-! # Segments of path names

    Where a path name leads is told by whether it starts at the root and by its
    segments, of which the empty ones and the dots lead nowhere.  So the name of
    a file in a directory leads to the name below that directory (`names_join`),
    and a path name leads to its last segment below its parent
    (`splitLast?_spec`). -/

namespace IconCompiler

open Disk Text

namespace Path

theorem slash_not_mem_segment {path segment : String} (h : segment ∈ segments path) :
    '/' ∉ segment.toList := by
  obtain ⟨cs, hcs, rfl⟩ := List.mem_map.mp h
  rw [String.toList_ofList]
  intro hslash
  exact absurd (eq_false_of_mem_splitAtAll hcs hslash) (by decide)

theorem segments_ne_nil (path : String) : segments path ≠ [] := by
  obtain ⟨first, pieces, hcut⟩ := exists_splitAtAll_eq_cons (· == '/') path.toList
  rw [segments, hcut]
  exact List.cons_ne_nil _ _

theorem segments_empty : segments "" = [""] := rfl

theorem mem_of_mem_segment {path segment : String} (h : segment ∈ segments path) {c : Char}
    (hc : c ∈ segment.toList) : c ∈ path.toList := by
  obtain ⟨cs, hcs, rfl⟩ := List.mem_map.mp h
  rw [String.toList_ofList] at hc
  exact mem_of_mem_splitAtAll hcs hc

theorem segments_append_slash (path rest : String) :
    segments (path ++ "/" ++ rest) = segments path ++ segments rest := by
  rw [segments, String.toList_append, String.toList_append, List.append_assoc]
  show ((splitAtAll (· == '/') (path.toList ++ '/' :: rest.toList)).map String.ofList) = _
  rw [splitAtAll_append rfl, List.map_append]
  rfl

theorem segments_of_no_slash {name : String} (h : '/' ∉ name.toList) : segments name = [name] := by
  have hcut : splitAtAll (· == '/') name.toList = [name.toList] := by
    refine splitAtAll_of_not_mem ?_
    intro c hc
    refine beq_eq_false_iff_ne.mpr ?_
    rintro rfl
    exact h hc
  rw [segments, hcut, List.map_singleton, String.ofList_toList]

theorem segments_joinWith {names : List String} (hne : names ≠ [])
    (h : ∀ name ∈ names, '/' ∉ name.toList) : segments (joinWith "/" names) = names := by
  have hfree : ∀ name ∈ names, ∀ c ∈ name.toList, (c == '/') = false := by
    intro name hname c hc
    refine beq_eq_false_iff_ne.mpr ?_
    rintro rfl
    exact h name hname hc
  rw [segments, show "/" = String.singleton '/' from rfl, splitAtAll_joinWith rfl hne hfree,
    List.map_map]
  simp [Function.comp_def]

/-- The segments of a path name that say where to go. -/
def names (path : String) : List String :=
  (segments path).filter (· != "")

/-- Whether a path name starts at the root. -/
def isRooted (path : String) : Bool :=
  path.toList.head? == some '/'

/-- A path name starts at the root if its first segment is empty and not its
    only one. -/
theorem isRooted_iff (path : String) :
    isRooted path = true ↔ ∃ rest, rest ≠ [] ∧ segments path = "" :: rest := by
  rw [isRooted, segments]
  cases path.toList with
  | nil => simp [splitAtAll]
  | cons c cs =>
      obtain ⟨first, pieces, hsplit⟩ := exists_splitAtAll_eq_cons (· == '/') cs
      by_cases hc : c = '/'
      · simp [splitAtAll, hc, hsplit]
      · simp [splitAtAll, hc, hsplit, String.ofList_eq_empty_iff]

theorem isRooted_join {directory : String} (h : directory ≠ "") (name : String) :
    isRooted (join directory name) = isRooted directory := by
  have hhead (more : List Char) :
      (directory.toList ++ more).head? = directory.toList.head? := by
    cases hcs : directory.toList with
    | nil => exact absurd (String.toList_eq_nil_iff.mp hcs) h
    | cons c cs => rfl
  rw [isRooted, isRooted, join]
  split
  · rw [String.toList_append, hhead]
  · rw [String.toList_append, String.toList_append, List.append_assoc, hhead]

theorem names_join (directory name : String) :
    names (join directory name) = names directory ++ names name := by
  rw [names, names, names, join]
  split
  · next hend =>
      rcases hend with rfl | hslash
      · rw [String.empty_append, segments_empty]
        rfl
      -- the slash at the end makes an empty segment
      · obtain ⟨front, hfront⟩ := List.getLast?_eq_some_iff.mp hslash
        have hdirectory : directory = String.ofList front ++ "/" := by
          rw [← String.ofList_toList (s := directory), hfront, String.ofList_append]
        have hown := segments_append_slash (String.ofList front) ""
        rw [String.append_empty] at hown
        rw [hdirectory, segments_append_slash, hown, List.filter_append, List.filter_append,
          segments_empty, List.filter_cons_of_neg (by decide), List.filter_nil, List.append_nil]
  · rw [segments_append_slash, List.filter_append]

/-- What is named in a directory goes one name further. -/
theorem names_join_of_isSegment (directory : String) {name : String} (hname : IsSegment name) :
    names (join directory name) = names directory ++ [name] := by
  rw [names_join, names, names, segments_of_no_slash hname.no_slash, List.filter_cons_of_pos]
  · rfl
  · simpa using hname.nonempty

/-! ## The last segment -/

/-- A segment that says nothing inside a path name. -/
def isIdle (segment : String) : Bool :=
  segment == "" || segment == "."

/-- Of the segments that say nothing only dots are left when the empty ones go. -/
theorem eq_dot_of_mem_idle {idle : List String} (h : ∀ segment ∈ idle, isIdle segment = true) :
    ∀ name ∈ idle.filter (· != ""), name = "." := by
  intro name hname
  obtain ⟨hmem, hnonempty⟩ := List.mem_filter.mp hname
  have hidle := h name hmem
  simp only [isIdle, Bool.or_eq_true, beq_iff_eq] at hidle
  exact hidle.resolve_left (by simpa using hnonempty)

theorem followAll_dots {dots : List String} (h : ∀ name ∈ dots, name = ".")
    (location : Location) : followAll location dots = location := by
  induction dots with
  | nil => rfl
  | cons name rest ih =>
      obtain ⟨rfl, hrest⟩ := List.forall_mem_cons.mp h
      exact ih hrest

/-- Only segments that say nothing are dropped, up to one that says something. -/
theorem exists_dropIdle_append (segments : List String) :
    ∃ idle, segments = dropIdle segments ++ idle ∧ ∀ segment ∈ idle, isIdle segment = true := by
  refine ⟨(segments.reverse.takeWhile isIdle).reverse, ?_, ?_⟩
  · rw [show dropIdle segments = (segments.reverse.dropWhile isIdle).reverse from rfl,
      ← List.reverse_append, List.takeWhile_append_dropWhile, List.reverse_reverse]
  · intro segment hsegment
    exact (List.all_eq_true.mp List.all_takeWhile) segment (List.mem_reverse.mp hsegment)

/-- The last segment that says something stands behind others, with idle ones on
    either side of it. -/
theorem exists_around_of_dropIdle {segments outer : List String} {last : String}
    (h : (dropIdle segments).reverse = last :: outer) :
    ∃ idle rest, segments = dropIdle outer.reverse ++ idle ++ [last] ++ rest
      ∧ (∀ segment ∈ idle, isIdle segment = true) ∧ (∀ segment ∈ rest, isIdle segment = true)
      ∧ last ≠ "" := by
  obtain ⟨rest, hsegments, hrest⟩ := exists_dropIdle_append segments
  obtain ⟨idle, houter, hidle⟩ := exists_dropIdle_append outer.reverse
  have hkept : dropIdle segments = outer.reverse ++ [last] := by
    rw [← List.reverse_reverse (dropIdle segments), h, List.reverse_cons]
  refine ⟨idle, rest, ?_, hidle, hrest, ?_⟩
  · rw [hkept, houter] at hsegments
    exact hsegments
  · rw [dropIdle, List.reverse_reverse] at h
    have hhead := List.head?_dropWhile_not isIdle segments.reverse
    rw [show segments.reverse.dropWhile isIdle = last :: outer from h] at hhead
    have hidleLast : isIdle last = false := hhead
    rintro rfl
    exact absurd hidleLast (by decide)

theorem joinWith_segments (path : String) : joinWith "/" (segments path) = path := by
  refine String.toList_inj.mp ?_
  rw [joinWith, String.toList_intercalate, segments, List.map_map, splitAtAll_eq_splitOnP,
    ← List.splitOn_eq_splitOnP]
  have hpieces : (String.toList ∘ String.ofList : List Char → List Char) = id :=
    funext fun _ => String.toList_ofList
  rw [hpieces, List.map_id]
  exact List.intercalate_splitOn '/'

/-- A path name begins as its first segments do. -/
theorem exists_append_of_segments {path : String} {front rest : List String} (hne : front ≠ [])
    (h : segments path = front ++ rest) : ∃ tail, path = joinWith "/" front ++ tail := by
  rw [← joinWith_segments path, h]
  by_cases hrest : rest = []
  · exact ⟨"", by rw [hrest, List.append_nil, String.append_empty]⟩
  · refine ⟨"/" ++ joinWith "/" rest, ?_⟩
    rw [joinWith, String.intercalate_append_of_ne_nil hne hrest, String.append_assoc]
    rfl

theorem names_slash_joinWith {inner : List String} (h : ∀ name ∈ inner, '/' ∉ name.toList) :
    isRooted ("/" ++ joinWith "/" inner) = true
      ∧ names ("/" ++ joinWith "/" inner) = inner.filter (· != "") := by
  have hsegments : segments ("/" ++ joinWith "/" inner)
      = "" :: segments (joinWith "/" inner) := by
    have happend := segments_append_slash "" (joinWith "/" inner)
    rw [String.empty_append] at happend
    exact happend
  refine ⟨(isRooted_iff _).mpr ⟨_, ?_, hsegments⟩, ?_⟩
  · exact segments_ne_nil _
  · rw [names, hsegments, List.filter_cons_of_neg (by decide)]
    by_cases hne : inner = []
    · rw [hne]
      rfl
    · rw [segments_joinWith hne h]

theorem isRooted_eq_false {path head : String} {tail : List String} (hne : head ≠ "")
    (hsegments : segments path = head :: tail) : isRooted path = false := by
  rw [← Bool.not_eq_true, isRooted_iff, hsegments]
  rintro ⟨rest, -, heq⟩
  exact hne (List.cons.inj heq).1

/-- How a path name is made up of the name of its parent and its last segment.
    Nothing but dots and empty segments stands around that. -/
structure SplitsInto (path parent last : String) : Prop where
  nonempty : last ≠ ""
  no_slash : '/' ∉ last.toList
  rooted : isRooted parent = isRooted path
  begins : ∃ tail, path = parent ++ tail
  names : ∃ before behind, names path = names parent ++ before ++ [last] ++ behind
    ∧ (∀ name ∈ before, name = ".") ∧ ∀ name ∈ behind, name = "."

section

variable {path parent last : String} {outer : List String}

/-- Segments with idle ones around the last one. -/
theorem exists_names_around {front idle rest : List String} (hlast : last ≠ "")
    (hidle : ∀ segment ∈ idle, isIdle segment = true)
    (hrest : ∀ segment ∈ rest, isIdle segment = true) :
    ∃ before behind, (front ++ idle ++ [last] ++ rest).filter (· != "")
        = front.filter (· != "") ++ before ++ [last] ++ behind
      ∧ (∀ name ∈ before, name = ".") ∧ ∀ name ∈ behind, name = "." := by
  refine ⟨_, _, ?_, eq_dot_of_mem_idle hidle, eq_dot_of_mem_idle hrest⟩
  have hkept : [last].filter (· != "") = [last] := by simp [hlast]
  rw [List.filter_append, List.filter_append, List.filter_append, hkept]

/-- The last segment of a path that starts at the root, which is its outermost
    parent. -/
theorem splits_of_rooted {body : List String} (hsegments : segments path = "" :: body)
    (hfound : (dropIdle body).reverse = last :: outer) :
    SplitsInto path ("/" ++ joinWith "/" (dropIdle outer.reverse)) last := by
  obtain ⟨idle, rest, hbody, hidle, hrest, hlast⟩ := exists_around_of_dropIdle hfound
  have hmem : last ∈ body := by rw [hbody]; simp
  have hrooted : isRooted path = true :=
    (isRooted_iff path).mpr ⟨body, List.ne_nil_of_mem hmem, hsegments⟩
  have hslash : ∀ segment ∈ body, '/' ∉ segment.toList := by
    intro segment hsegment
    exact slash_not_mem_segment (hsegments ▸ List.mem_cons_of_mem _ hsegment)
  have hfront : ∀ segment ∈ dropIdle outer.reverse, '/' ∉ segment.toList := by
    intro segment hsegment
    refine hslash segment ?_
    rw [hbody]
    simp [hsegment]
  obtain ⟨hrootedParent, hnames⟩ := names_slash_joinWith hfront
  refine ⟨hlast, hslash last hmem, hrootedParent.trans hrooted.symm, ?_, ?_⟩
  · by_cases hnil : dropIdle outer.reverse = []
    -- the parent is the root
    · have hne : body ≠ [] := List.ne_nil_of_mem hmem
      refine ⟨joinWith "/" body, ?_⟩
      rw [hnil, ← joinWith_segments path, hsegments,
        show "" :: body = [""] ++ body from rfl, joinWith,
        String.intercalate_append_of_ne_nil (List.cons_ne_nil _ _) hne,
        String.intercalate_singleton, String.empty_append]
      rfl
    · have hcut : segments path = ("" :: dropIdle outer.reverse) ++ (idle ++ [last] ++ rest) := by
        rw [hsegments, hbody]
        simp
      obtain ⟨tail, htail⟩ := exists_append_of_segments (List.cons_ne_nil _ _) hcut
      refine ⟨tail, htail.trans ?_⟩
      rw [show "" :: dropIdle outer.reverse = [""] ++ dropIdle outer.reverse from rfl, joinWith,
        String.intercalate_append_of_ne_nil (List.cons_ne_nil _ _) hnil,
        String.intercalate_singleton, String.empty_append]
      rfl
  · rw [hnames, Path.names, hsegments, List.filter_cons_of_neg (by decide), hbody]
    exact exists_names_around hlast hidle hrest

/-- The last segment of a path that starts with the name `head`, which is its
    outermost parent. -/
theorem splits_of_relative {head : String} {tail : List String} (hne : head ≠ "")
    (hsegments : segments path = head :: tail)
    (hfound : (dropIdle tail).reverse = last :: outer) :
    SplitsInto path (joinWith "/" (head :: dropIdle outer.reverse)) last := by
  obtain ⟨idle, rest, htail, hidle, hrest, hlast⟩ := exists_around_of_dropIdle hfound
  have hcut : segments path = head :: dropIdle outer.reverse ++ (idle ++ [last] ++ rest) := by
    rw [hsegments, htail]
    simp
  have hslash : ∀ segment ∈ segments path, '/' ∉ segment.toList :=
    fun segment hsegment => slash_not_mem_segment hsegment
  rw [hcut] at hslash
  have hparent := segments_joinWith (List.cons_ne_nil head (dropIdle outer.reverse))
    fun segment hsegment => hslash segment (List.mem_append_left _ hsegment)
  refine ⟨hlast, hslash last (by simp), ?_, exists_append_of_segments (List.cons_ne_nil _ _) hcut,
    ?_⟩
  · rw [isRooted_eq_false hne hsegments, isRooted_eq_false hne hparent]
  · rw [Path.names, Path.names, hparent, hcut, ← List.append_assoc, ← List.append_assoc]
    exact exists_names_around hlast hidle hrest

/-- A single segment stands in the directory where relative paths start. -/
theorem splits_of_single {head : String} {tail : List String} (hne : head ≠ "")
    (hsegments : segments path = head :: tail) (hfound : (dropIdle tail).reverse = []) :
    SplitsInto path "" head := by
  obtain ⟨idle, htail, hidle⟩ := exists_dropIdle_append tail
  rw [List.reverse_eq_nil_iff.mp hfound, List.nil_append] at htail
  have hslash : '/' ∉ head.toList :=
    slash_not_mem_segment (hsegments ▸ List.mem_cons_self ..)
  refine ⟨hne, hslash, (isRooted_eq_false hne hsegments).symm, ⟨path, String.empty_append.symm⟩, ?_⟩
  have hcut : segments path = [] ++ [] ++ [head] ++ idle := by rw [hsegments, htail]; rfl
  rw [Path.names, Path.names, segments_empty, hcut]
  exact exists_names_around hne (fun _ hmem => absurd hmem List.not_mem_nil) hidle

/-- How the last segment of a path name is split off. -/
theorem splitLast?_spec (h : splitLast? path = some (parent, last)) :
    SplitsInto path parent last := by
  rw [splitLast?] at h
  split at h
  · exact absurd h (by simp)
  -- the path starts at the root
  · next body hsegments =>
      split at h
      · exact absurd h (by simp)
      · next found outer hfound =>
          obtain ⟨rfl, rfl⟩ := Prod.mk.inj (Option.some.inj h)
          exact splits_of_rooted hsegments hfound
  -- the path starts elsewhere
  · next head tail hhead hsegments =>
      split at h
      · next hnone =>
          obtain ⟨rfl, rfl⟩ := Prod.mk.inj (Option.some.inj h)
          exact splits_of_single hhead hsegments hnone
      · next found outer hfound =>
          obtain ⟨rfl, rfl⟩ := Prod.mk.inj (Option.some.inj h)
          exact splits_of_relative hhead hsegments hfound

/-- What has no last segment consists of dots and slashes. -/
theorem eq_dot_of_splitLast? (h : splitLast? path = none) : ∀ name ∈ names path, name = "." := by
  rw [splitLast?] at h
  split at h
  · next hnil => exact absurd hnil (segments_ne_nil path)
  · next body hsegments =>
      split at h
      · next hnone =>
          obtain ⟨idle, hbody, hidle⟩ := exists_dropIdle_append body
          rw [List.reverse_eq_nil_iff.mp hnone, List.nil_append] at hbody
          rw [names, hsegments, List.filter_cons_of_neg (by decide), hbody]
          exact eq_dot_of_mem_idle hidle
      · exact absurd h (by simp)
  · split at h <;> exact absurd h (by simp)

end

end Path

end IconCompiler
