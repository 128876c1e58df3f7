import IconCompiler.Asset
import IconCompiler.Proofs.Disk.Plain
import IconCompiler.Proofs.Text.Split
import IconCompiler.RelativePath

/-! # Paths below a root

    A path is brought down to its named segments from left to right, so what is
    written behind a root is appended to the segments of the root, however that is
    spelled (`segments_below`).  Seen from the root only what was written behind
    it is left (`relativeTo_below`). -/

namespace IconCompiler

open Text

/-- A segment that leads down, whichever of the slashes are taken for separators. -/
structure IsPart (segment : String) : Prop extends IsSegment segment where
  no_backslash : '\\' ∉ segment.toList

theorem IsPart.isSlash_eq_false {segment : String} (h : IsPart segment) {c : Char}
    (hc : c ∈ segment.toList) : isSlash c = false := by
  rw [isSlash, Bool.or_eq_false_iff, beq_eq_false_iff_ne, beq_eq_false_iff_ne]
  constructor
  · rintro rfl
    exact h.no_slash hc
  · rintro rfl
    exact h.no_backslash hc

/-- How the paths of what is in a directory begin. -/
def Opens (root front : String) : Prop :=
  front = root ++ "/" ∨ (front = root ∧ ∃ c, root.toList.getLast? = some c ∧ isSlash c = true)

namespace RelativePath

/-! ## Named segments -/

theorem follow_of_isPart {part : String} (h : IsPart part) (named : List (List Char)) :
    follow named part.toList = named ++ [part.toList] := by
  have hne : ∀ other : String, part ≠ other → part.toList ≠ other.toList :=
    fun other hother heq => hother (String.toList_inj.mp heq)
  have hidle : ¬ (part.toList = [] ∨ part.toList = ['.']) :=
    not_or.mpr ⟨hne "" h.nonempty, hne "." h.not_dot⟩
  have hdots : ¬ part.toList = ['.', '.'] := hne ".." h.not_dots
  rw [follow, if_neg hidle, if_neg hdots]

theorem foldl_follow {parts : List String} (h : ∀ part ∈ parts, IsPart part)
    (named : List (List Char)) :
    (parts.map String.toList).foldl follow named = named ++ parts.map String.toList := by
  induction parts generalizing named with
  | nil => exact (List.append_nil named).symm
  | cons part rest ih =>
      obtain ⟨hpart, hrest⟩ := List.forall_mem_cons.mp h
      rw [List.map_cons, List.foldl_cons, follow_of_isPart hpart, ih hrest, List.append_assoc]
      rfl

/-- What follows a slash is appended to what precedes it. -/
theorem segments_append {c : Char} (hc : isSlash c = true) (front rest : List Char) :
    segments (front ++ c :: rest) = (splitAtAll isSlash rest).foldl follow (segments front) := by
  rw [segments, splitAtAll_append hc, List.foldl_append]
  rfl

theorem segments_concat {c : Char} (hc : isSlash c = true) (front : List Char) :
    segments (front ++ [c]) = segments front :=
  segments_append hc front []

theorem splitAtAll_joinWith_parts {parts : List String} (hne : parts ≠ [])
    (h : ∀ part ∈ parts, IsPart part) :
    splitAtAll isSlash (joinWith "/" parts).toList = parts.map String.toList := by
  rw [show "/" = String.singleton '/' from rfl]
  exact splitAtAll_joinWith rfl hne fun part hpart _ hc => (h part hpart).isSlash_eq_false hc

/-- The beginning of the paths below a root ends in a slash, and comes down to what
    the root comes down to. -/
theorem exists_eq_of_opens {root front : String} (h : Opens root front) :
    ∃ before c, front.toList = before ++ [c] ∧ isSlash c = true
      ∧ segments before = segments root.toList := by
  rcases h with rfl | ⟨rfl, c, hlast, hc⟩
  · exact ⟨root.toList, '/', String.toList_append, rfl, rfl⟩
  · obtain ⟨before, hbefore⟩ := List.getLast?_eq_some_iff.mp hlast
    exact ⟨before, c, hbefore, hc, by rw [hbefore, segments_concat hc]⟩

/-- The parts of a path below a root are appended to the segments of the root. -/
theorem segments_below {root front : String} (h : Opens root front) {parts : List String}
    (hne : parts ≠ []) (hparts : ∀ part ∈ parts, IsPart part) :
    segments (front ++ joinWith "/" parts).toList
      = segments root.toList ++ parts.map String.toList := by
  obtain ⟨before, c, hfront, hc, hbefore⟩ := exists_eq_of_opens h
  rw [String.toList_append, hfront, List.append_assoc, List.singleton_append, segments_append hc,
    splitAtAll_joinWith_parts hne hparts, foldl_follow hparts, hbefore]

/-! ## Ways -/

theorem commonCount_append (named more : List (List Char)) :
    commonCount named (named ++ more) = named.length := by
  induction named with
  | nil =>
      cases more <;> rfl
  | cons first rest ih =>
      rw [List.cons_append, commonCount, if_pos rfl, ih]
      rfl

theorem steps_append (named more : List (List Char)) : steps named (named ++ more) = more := by
  rw [steps, commonCount_append, Nat.sub_self, List.drop_left]
  rfl

theorem join_map_toList {parts : List String} (hne : parts ≠ []) :
    join (parts.map String.toList) = (joinWith "/" parts).toList := by
  rw [join, if_neg (by simpa using hne), joinWith, String.toList_intercalate]
  rfl

/-- Seen from a root, a path below it is what is written behind the root. -/
theorem relativeTo_below {root front : String} (h : Opens root front) {parts : List String}
    (hne : parts ≠ []) (hparts : ∀ part ∈ parts, IsPart part) :
    relativeTo root (front ++ joinWith "/" parts) = joinWith "/" parts := by
  rw [relativeTo, segments_below h hne hparts, steps_append, join_map_toList hne,
    String.ofList_toList]

end RelativePath

/-! ## Names -/

/-- The name of an asset is read off what is written behind the root. -/
theorem Asset.stem_below {root front : String} (h : Opens root front) (rest content : String) :
    Asset.stem ⟨front ++ rest, content⟩ = Asset.stem ⟨rest, content⟩ := by
  obtain ⟨before, c, hfront, hc, -⟩ := RelativePath.exists_eq_of_opens h
  have hname : Asset.fileName ⟨front ++ rest, content⟩ = Asset.fileName ⟨rest, content⟩ := by
    rw [fileName, fileName, String.toList_append, hfront, List.append_assoc,
      List.singleton_append]
    exact afterLast_append hc _ _
  rw [stem, stem, hname]

end IconCompiler
