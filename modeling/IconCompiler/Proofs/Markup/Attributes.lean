import IconCompiler.Markup.Document
import IconCompiler.Proofs.OrderedMap
import IconCompiler.Proofs.Results

/-! # Attributes of an element

    The attributes of a tag are taken over one by one, under their local names
    and in the order in which they are written; namespace declarations leave no
    trace.  So the keys of an element are the local names of its other
    attributes (`keys_of_ofTag`). -/

namespace IconCompiler

namespace Markup

/-- The key under which an attribute is kept; a namespace declaration has none. -/
def RawAttribute.localKey? (raw : RawAttribute) : Option String :=
  if isNamespaceBinding raw.key then none else some (String.ofList (localName raw.key))

/-- The keys under which the attributes of a tag are kept. -/
def Tag.localKeys (tag : Tag) : List String :=
  tag.attributes.1.filterMap RawAttribute.localKey?

namespace Frame

/-- An attribute that is taken over is a namespace declaration, or it comes last
    under a key that is new. -/
theorem addAttribute_eq_ok {attributes next : AttributeMap} {raw : RawAttribute}
    (h : addAttribute attributes raw = .ok next) :
    (isNamespaceBinding raw.key = true ∧ next = attributes)
      ∨ ∃ value, isNamespaceBinding raw.key = false
        ∧ Reference.replace raw.value = .ok value
        ∧ String.ofList (localName raw.key) ∉ attributes.keys
        ∧ next.entries = attributes.entries
          ++ [(String.ofList (localName raw.key), String.ofList value)] := by
  rw [addAttribute] at h
  split at h
  · next hbinding => exact .inl ⟨hbinding, (Except.ok.inj h).symm⟩
  · next hbinding =>
      split at h
      · exact absurd h (by simp)
      · next value hvalue =>
          dsimp only at h
          split at h
          · exact absurd h (by simp)
          · next hnew =>
              refine .inr ⟨value, by simpa using hbinding, hvalue, hnew, ?_⟩
              rw [← Except.ok.inj h]
              exact insertPair_of_not_mem _ hnew

/-- The keys of an element grow in the order of the attributes. -/
theorem keys_of_foldlM {raws : List RawAttribute} {attributes next : AttributeMap}
    (h : raws.foldlM addAttribute attributes = .ok next) :
    next.keys = attributes.keys ++ raws.filterMap RawAttribute.localKey? := by
  induction raws generalizing attributes with
  | nil =>
      rw [← Except.ok.inj h, List.filterMap_nil, List.append_nil]
  | cons raw rest ih =>
      obtain ⟨middle, hraw, hrest⟩ := foldlM_cons_eq_ok_iff.mp h
      rw [ih hrest]
      -- a declaration leaves the map as it is and has no local key either
      rcases addAttribute_eq_ok hraw with ⟨hbinding, rfl⟩ | ⟨value, hbinding, -, -, hentries⟩
      · rw [List.filterMap_cons_none (by rw [RawAttribute.localKey?, if_pos hbinding])]
      · have hkey : raw.localKey? = some (String.ofList (localName raw.key)) := by
          rw [RawAttribute.localKey?, hbinding, if_neg Bool.false_ne_true]
        have hkeys : middle.keys = attributes.keys ++ [String.ofList (localName raw.key)] := by
          rw [OrderedMap.keys, hentries, List.map_append]
          rfl
        rw [List.filterMap_cons_some hkey, hkeys, List.append_assoc]
        rfl

/-- The element that a tag opens: all its attributes are in order, it is kept
    under its local name, and it has no children yet. -/
theorem ofTag_eq_ok_iff {tag : Tag} {frame : Frame} :
    Frame.ofTag tag = .ok frame
      ↔ tag.attributes.2 = none
        ∧ tag.attributes.1.foldlM addAttribute OrderedMap.empty = .ok frame.attributes
        ∧ frame.name = String.ofList (localName tag.name)
        ∧ frame.children = [] := by
  rw [Frame.ofTag, bind_eq_ok_iff]
  cases tag.attributes.2 with
  | some fault => simp
  | none =>
      constructor
      · rintro ⟨attributes, hfold, hframe⟩
        rw [← Except.ok.inj hframe]
        exact ⟨rfl, hfold, rfl, rfl⟩
      · rintro ⟨-, hfold, hname, hchildren⟩
        obtain ⟨name, map, children⟩ := frame
        cases hname
        cases hchildren
        exact ⟨map, hfold, rfl⟩

/-- The keys of an element are the local names of its attributes, namespace
    declarations left out. -/
theorem keys_of_ofTag {tag : Tag} {frame : Frame} (h : Frame.ofTag tag = .ok frame) :
    frame.attributes.keys = tag.localKeys := by
  obtain ⟨-, hfold, -, -⟩ := ofTag_eq_ok_iff.mp h
  exact keys_of_foldlM hfold

end Frame

/-- The root loses the attribute that is never kept, and no other. -/
theorem mem_keys_filterKeys (attributes : AttributeMap) (key : String) :
    key ∈ (attributes.filterKeys (· != droppedAttribute)).keys
      ↔ key ∈ attributes.keys ∧ key ≠ droppedAttribute := by
  simp only [OrderedMap.keys, OrderedMap.filterKeys, List.mem_map, List.mem_filter, bne_iff_ne]
  constructor
  · rintro ⟨entry, ⟨hmem, hne⟩, rfl⟩
    exact ⟨⟨entry, hmem, rfl⟩, hne⟩
  · rintro ⟨⟨entry, hmem, rfl⟩, hne⟩
    exact ⟨entry, ⟨hmem, hne⟩, rfl⟩

end Markup

end IconCompiler
