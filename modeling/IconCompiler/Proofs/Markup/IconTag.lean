import IconCompiler.Proofs.Markup.RoundTrip
import Mathlib.Data.List.Nodup

/-! # The tag of a standalone icon

    A standalone icon has the declaration of its namespace, its own attributes and
    those that overrides add, in this order; each has the value of the first
    override of its key, if there is one.  The icon's own keys are never
    repeated, but overrides are added one by one: their keys are repeated, and the
    declaration is, if the overrides repeat them (`names_distinct_iff`). -/

namespace IconCompiler

namespace Markup

open Reference

section

variable {escape : Char → List Char} (hescape : IsEscape escape)

/-- Reading ends at a written attribute whose key was read before. -/
theorem attributesFrom_repeated {seen : List RawAttribute} {entry : String × String}
    (hkey : isPlainName entry.1.toList = true) (hseen : ∃ raw ∈ seen, raw.key = entry.1.toList)
    (position : Nat) (rest : List Char) :
    (Tag.attributesFrom seen position (writtenPair escape entry ++ rest)).2 ≠ none := by
  obtain ⟨first, more, hcons, hfirst, hmore, hform⟩ := exists_writtenPair_eq hkey rest
  have hfind : (seen.find? (·.key == first :: more)).isSome = true := by
    rw [List.find?_isSome, ← hcons]
    obtain ⟨raw, hraw, hsame⟩ := hseen
    exact ⟨raw, hraw, beq_iff_eq.mpr hsame⟩
  obtain ⟨earlier, hearlier⟩ := Option.isSome_iff_exists.mp hfind
  rw [hform, attributesFrom_space rfl, attributesFrom_seen hfirst hmore hearlier]
  exact Option.some_ne_none _

include hescape in
/-- Written attributes are read without a fault if their keys are distinct, and only
    then. -/
theorem attributesFrom_written_iff (entries : List (String × String)) (seen : List RawAttribute)
    (position : Nat) (hkeys : ∀ entry ∈ entries, isPlainName entry.1.toList = true) :
    (Tag.attributesFrom seen position (written escape entries)).2 = none
      ↔ (entries.map Prod.fst).Nodup
        ∧ ∀ raw ∈ seen, ∀ entry ∈ entries, raw.key ≠ entry.1.toList := by
  constructor
  · intro h
    induction entries generalizing seen position with
    | nil => exact ⟨List.nodup_nil, by simp⟩
    | cons entry entries ih =>
        have hkey := hkeys entry List.mem_cons_self
        rw [written, List.flatMap_cons, ← written] at h
        have hnew : ∀ raw ∈ seen, raw.key ≠ entry.1.toList := fun raw hraw hsame =>
          attributesFrom_repeated hkey ⟨raw, hraw, hsame⟩ position _ h
        obtain ⟨found, next, hfound, -, hread⟩ :=
          attributesFrom_pair hescape hkey hnew position (written escape entries)
        rw [hread] at h
        obtain ⟨hnodup, hlater⟩ := ih (seen ++ [found]) next
          (fun other hother => hkeys other (List.mem_cons_of_mem entry hother)) h
        have hfresh : entry.1 ∉ entries.map Prod.fst := by
          intro hmem
          obtain ⟨other, hother, hsame⟩ := List.mem_map.mp hmem
          refine hlater found (List.mem_append_right seen List.mem_cons_self) other hother ?_
          rw [hfound, hsame]
        refine ⟨List.nodup_cons.mpr ⟨hfresh, hnodup⟩, ?_⟩
        intro raw hraw other hother
        rcases List.mem_cons.mp hother with rfl | hother
        · exact hnew raw hraw
        · exact hlater raw (List.mem_append_left _ hraw) other hother
  · rintro ⟨hnodup, hnew⟩
    obtain ⟨raws, hraws, -⟩ := attributesFrom_written hescape (List.forall_mem_nil _) entries seen
      position hkeys hnodup hnew
    rw [← List.append_nil (written escape entries), hraws]

end

end Markup

namespace SvgIcon

open Markup Reference

/-! ## The attributes of the tag -/

/-- The keys that overrides add: those that are not empty and that are no keys of the
    icon. -/
def addedKeys (icon : SvgIcon) (overrides : List (String × String)) : List String :=
  (overrides.map Prod.fst).filter fun key => key != "" && (icon.attribute? key).isNone

/-- No key is added twice, and the one that is always there is not added. -/
def AddsOnce (icon : SvgIcon) (overrides : List (String × String)) : Prop :=
  (icon.addedKeys overrides).Nodup ∧ svgNamespace.1 ∉ icon.addedKeys overrides

instance (icon : SvgIcon) (overrides : List (String × String)) :
    Decidable (icon.AddsOnce overrides) :=
  inferInstanceAs (Decidable (_ ∧ _))

/-- The attributes of the tag, in the order in which they are written. -/
def tagAttributes (icon : SvgIcon) (overrides : List (String × String)) :
    List (String × String) :=
  svgNamespace :: icon.effectiveAttributes overrides

variable {icon : SvgIcon} {overrides : List (String × String)}

theorem renderWith_eq (icon : SvgIcon) (overrides : List (String × String)) :
    icon.renderWith overrides
      = "<svg" ++ String.join ((icon.tagAttributes overrides).map renderAttribute) ++ ">"
        ++ icon.inner ++ "</svg>" := by
  rw [← String.toList_inj, toList_renderWith_icon]
  simp only [String.toList_append, toList_join_map toList_renderAttribute_icon, tagAttributes]
  simp

theorem keys_tagAttributes (icon : SvgIcon) (overrides : List (String × String)) :
    (icon.tagAttributes overrides).map Prod.fst
      = svgNamespace.1 :: (icon.attributes.map Prod.fst ++ icon.addedKeys overrides) := by
  rw [tagAttributes, List.map_cons, effectiveAttributes, List.map_append, List.map_map,
    addedKeys, List.filter_map]
  rfl

theorem not_mem_of_mem_addedKeys {key : String} (h : key ∈ icon.addedKeys overrides) :
    key ∉ icon.attributes.map Prod.fst := by
  intro hmem
  obtain ⟨entry, hentry, rfl⟩ := List.mem_map.mp hmem
  have hnone := (Bool.and_eq_true_iff.mp (List.mem_filter.mp h).2).2
  rw [Option.isNone_iff_eq_none, attribute?, List.lookup_eq_none_iff] at hnone
  exact absurd (hnone entry hentry) (by simp)

/-- The keys of the tag are distinct if no key is added twice. -/
theorem nodup_keys_tagAttributes_iff (hnodup : (icon.attributes.map Prod.fst).Nodup)
    (hdeclaration : svgNamespace.1 ∉ icon.attributes.map Prod.fst) :
    ((icon.tagAttributes overrides).map Prod.fst).Nodup ↔ icon.AddsOnce overrides := by
  have hdisjoint : ∀ key ∈ icon.attributes.map Prod.fst, ∀ other ∈ icon.addedKeys overrides,
      key ≠ other := by
    rintro key hkey other hother rfl
    exact not_mem_of_mem_addedKeys hother hkey
  rw [keys_tagAttributes, List.nodup_cons, List.nodup_append, List.mem_append, not_or, AddsOnce]
  constructor
  · rintro ⟨⟨-, hdeclared⟩, -, hadded, -⟩
    exact ⟨hadded, hdeclared⟩
  · rintro ⟨hadded, hdeclared⟩
    exact ⟨⟨hdeclaration, hdeclared⟩, hnodup, hadded, hdisjoint⟩

/-! ## The values of the tag -/

/-- The icon's own attributes, with the first override of each. -/
theorem lookup_replaced (overrides attributes : List (String × String)) (key : String) :
    (attributes.map fun entry => (entry.1, (overrides.lookup entry.1).getD entry.2)).lookup key
      = (attributes.lookup key).map fun value => (overrides.lookup key).getD value := by
  induction attributes with
  | nil => rfl
  | cons entry rest ih =>
      obtain ⟨k, v⟩ := entry
      rw [List.map_cons]
      by_cases hk : key = k
      · subst hk
        rw [List.lookup_cons_self, List.lookup_cons_self]
        rfl
      · rw [lookup_cons_of_ne hk, lookup_cons_of_ne hk, ih]

theorem lookup_filter_key (p : String → Bool) (entries : List (String × String)) (key : String) :
    (entries.filter fun entry => p entry.1).lookup key
      = if p key = true then entries.lookup key else none := by
  induction entries with
  | nil => simp
  | cons entry rest ih =>
      obtain ⟨k, v⟩ := entry
      by_cases hk : key = k
      · subst hk
        by_cases hp : p key = true
        · rw [List.filter_cons, if_pos hp, List.lookup_cons_self, List.lookup_cons_self, if_pos hp]
        · rw [List.filter_cons, if_neg hp, ih, if_neg hp, if_neg hp]
      · rw [lookup_cons_of_ne hk, ← ih, List.filter_cons]
        split
        · rw [lookup_cons_of_ne hk]
        · rfl

/-- An attribute has the value of the first override of its key, or else the one it
    has in the icon; an override without a key adds nothing. -/
theorem lookup_tagAttributes (hempty : "" ∉ icon.attributes.map Prod.fst) {key : String}
    (hkey : key ≠ svgNamespace.1) :
    (icon.tagAttributes overrides).lookup key
      = if key = "" then none else (overrides.lookup key).or (icon.attribute? key) := by
  rw [tagAttributes, lookup_cons_of_ne hkey, effectiveAttributes, List.lookup_append,
    lookup_replaced, lookup_filter_key fun key => key != "" && (icon.attribute? key).isNone]
  have hown : icon.attributes.lookup key = icon.attribute? key := rfl
  rw [hown]
  by_cases hk : key = ""
  · have hnone : icon.attribute? key = none := by
      rw [attribute?, List.lookup_eq_none_iff]
      intro entry hentry
      rw [hk, bne_iff_ne]
      exact fun he => hempty (List.mem_map.mpr ⟨entry, hentry, he.symm⟩)
    rw [hnone, if_pos hk]
    simp [hk]
  · rw [if_neg hk]
    cases icon.attribute? key with
    | none => simp [hk]
    | some value => cases overrides.lookup key <;> simp

/-! ## Reading the tag -/

/-- A reader cuts the tag off, and finds no fault in its attributes if their keys are
    distinct, and only then. -/
theorem reads_tag (icon : SvgIcon) (overrides : List (String × String))
    (hplain : ∀ entry ∈ icon.tagAttributes overrides, isPlainName entry.1.toList = true) :
    ∃ content rest, firstLexeme? (icon.renderWith overrides).toList = some (.tag content, rest)
      ∧ ((Tag.ofContent content).attributes.2 = none
        ↔ ((icon.tagAttributes overrides).map Prod.fst).Nodup)
      ∧ (((icon.tagAttributes overrides).map Prod.fst).Nodup →
        (Tag.ofContent content).attributes.1.map
            (fun raw => (raw.key, Reference.replace raw.value))
          = (icon.tagAttributes overrides).map
            fun entry => (entry.1.toList, .ok entry.2.toList)) := by
  have hname : isPlainName ['s', 'v', 'g'] = true := by decide
  have htag : Tag.ofContent (['s', 'v', 'g']
        ++ written SvgIcon.escapeChar (icon.tagAttributes overrides))
      = ⟨['s', 'v', 'g'], written SvgIcon.escapeChar (icon.tagAttributes overrides)⟩ :=
    ofContent_append hname fun c hc => isSpace_of_head?_written hc
  refine ⟨['s', 'v', 'g'] ++ written SvgIcon.escapeChar (icon.tagAttributes overrides),
    icon.inner.toList ++ '<' :: '/' :: (['s', 'v', 'g'] ++ ['>']), ?_⟩
  rw [toList_renderWith_icon, htag, Tag.attributes]
  refine ⟨firstLexeme?_named hname (skips_written isEscape_icon hplain) _, ?_, ?_⟩
  · rw [attributesFrom_written_iff isEscape_icon _ [] _ hplain]
    exact and_iff_left (fun raw hraw => absurd hraw List.not_mem_nil)
  · intro hnodup
    obtain ⟨raws, hraws, hmap⟩ := attributesFrom_written isEscape_icon (List.forall_mem_nil _)
      (icon.tagAttributes overrides) [] (byteLength ['s', 'v', 'g']) hplain hnodup (by simp)
    rw [List.append_nil] at hraws
    have hvalue : ∀ entry : String × String,
        Reference.replace (entry.2.toList.flatMap SvgIcon.escapeChar) = .ok entry.2.toList :=
      fun entry => replace_eq_ok_iff.mpr (isEscape_icon.denotes_value _)
    rw [hraws]
    calc raws.map (fun raw => (raw.key, Reference.replace raw.value))
        = (raws.map fun raw => (raw.key, raw.value)).map
            fun pair => (pair.1, Reference.replace pair.2) := by rw [List.map_map]; rfl
      _ = (icon.tagAttributes overrides).map fun entry => (entry.1.toList, .ok entry.2.toList) := by
          rw [hmap, List.map_map]
          exact List.map_congr_left fun entry _ => by rw [Function.comp, hvalue]

/-- The tag of an icon names no attribute twice if overrides add none twice, and only
    then.  Whatever is written for a key first is the first override of it, or else
    the value in the icon; and if the keys are names, a reader finds these attributes
    and values, or a fault where a key is repeated. -/
theorem names_distinct_iff (icon : SvgIcon) (overrides : List (String × String))
    (hnodup : (icon.attributes.map Prod.fst).Nodup)
    (hkeys : ∀ key ∈ icon.attributes.map Prod.fst, key ≠ "" ∧ key ≠ "xmlns") :
    icon.renderWith overrides
        = "<svg" ++ String.join ((icon.tagAttributes overrides).map renderAttribute) ++ ">"
          ++ icon.inner ++ "</svg>"
      ∧ (((icon.tagAttributes overrides).map Prod.fst).Nodup
          ∧ ((icon.tagAttributes overrides).map Prod.fst).count "xmlns" = 1
        ↔ icon.AddsOnce overrides)
      ∧ (∀ key, key ≠ "xmlns" → (icon.tagAttributes overrides).lookup key
        = if key = "" then none else (overrides.lookup key).or (icon.attribute? key))
      ∧ ((∀ entry ∈ icon.tagAttributes overrides, isPlainName entry.1.toList = true) →
        ∃ content rest,
          firstLexeme? (icon.renderWith overrides).toList = some (.tag content, rest)
            ∧ ((Tag.ofContent content).attributes.2 = none ↔ icon.AddsOnce overrides)
            ∧ (icon.AddsOnce overrides →
              (Tag.ofContent content).attributes.1.map
                  (fun raw => (raw.key, Reference.replace raw.value))
                = (icon.tagAttributes overrides).map
                  fun entry => (entry.1.toList, .ok entry.2.toList))) := by
  have hdeclaration : svgNamespace.1 ∉ icon.attributes.map Prod.fst :=
    fun hmem => (hkeys _ hmem).2 rfl
  have hempty : "" ∉ icon.attributes.map Prod.fst := fun hmem => (hkeys _ hmem).1 rfl
  have hdistinct : ((icon.tagAttributes overrides).map Prod.fst).Nodup ↔ icon.AddsOnce overrides :=
    nodup_keys_tagAttributes_iff hnodup hdeclaration
  refine ⟨renderWith_eq icon overrides, ?_, fun key => lookup_tagAttributes hempty, ?_⟩
  · have hmem : "xmlns" ∈ (icon.tagAttributes overrides).map Prod.fst := by
      rw [keys_tagAttributes]
      exact List.mem_cons_self
    rw [← hdistinct]
    exact and_iff_left_of_imp fun hnames => List.count_eq_one_of_mem hnames hmem
  · intro hplain
    rw [← hdistinct]
    exact reads_tag icon overrides hplain

/-- An icon with two attributes. -/
def framedIcon : SvgIcon :=
  ⟨"home", [("width", "24"), ("viewBox", "0 0 24 24")], "<g />"⟩

/-- Overrides of a key that the icon has, twice, of one that it has not, and one
    without a key. -/
def framedOverrides : List (String × String) :=
  [("width", "16"), ("", "x"), ("class", "a \"b\""), ("width", "8")]

theorem names_distinct_iff_framed :
    ((framedIcon.tagAttributes framedOverrides).map Prod.fst).Nodup
      ∧ (framedIcon.tagAttributes framedOverrides).lookup "width" = some "16"
      ∧ (framedIcon.tagAttributes framedOverrides).lookup "viewBox" = some "0 0 24 24"
      ∧ (framedIcon.tagAttributes framedOverrides).lookup "class" = some "a \"b\""
      ∧ (framedIcon.tagAttributes framedOverrides).lookup "" = none
      ∧ ∃ content rest,
        firstLexeme? (framedIcon.renderWith framedOverrides).toList = some (.tag content, rest)
          ∧ (Tag.ofContent content).attributes.2 = none := by
  have hadds : framedIcon.AddsOnce framedOverrides := by decide
  obtain ⟨-, hdistinct, hvalues, hread⟩ :=
    names_distinct_iff framedIcon framedOverrides (by decide) (by decide)
  obtain ⟨content, rest, hfirst, hfault, -⟩ := hread (by decide)
  exact ⟨(hdistinct.mpr hadds).1, (hvalues "width" (by decide)).trans (by decide),
    (hvalues "viewBox" (by decide)).trans (by decide),
    (hvalues "class" (by decide)).trans (by decide), (hvalues "" (by decide)).trans (by decide),
    content, rest, hfirst, hfault.mpr hadds⟩

/-- An override that is added twice is written twice. -/
theorem repeated_override_repeats :
    (∀ key ∈ [("width", "24")].map Prod.fst, key ≠ "" ∧ key ≠ "xmlns")
      ∧ (SvgIcon.mk "home" [("width", "24")] "").renderWith [("class", "a"), ("class", "b")]
        = "<svg xmlns=\"http://www.w3.org/2000/svg\" width=\"24\" class=\"a\" class=\"b\"></svg>" := by
  decide +kernel

end SvgIcon

end IconCompiler
