import IconCompiler.Manifest
import IconCompiler.Proofs.Json.RoundTrip
import IconCompiler.Proofs.OrderedMap

/-! # Manifests are read back

    The object for a manifest has each of its fields once, under the name that
    the reader looks for; so a printed manifest is read as the manifest it was
    printed for, unless it follows a later schema (`parse_render`). -/

namespace IconCompiler

open Json

theorem AttributeMap.isPlain_toJson (attributes : AttributeMap) : attributes.toJson.IsPlain := by
  refine .record ?_
  intro member hmember
  obtain ⟨entry, -, rfl⟩ := List.mem_map.mp hmember
  exact .text entry.2

theorem AttributeMap.ofJson?_toJson (attributes : AttributeMap) :
    AttributeMap.ofJson? attributes.toJson = some attributes := by
  rw [AttributeMap.ofJson?, AttributeMap.toJson, Value.pairs?_record]
  exact congrArg some (OrderedMap.ofPairs_entries attributes)

theorem Container.isPlain_toJson (container : Container) : container.toJson.IsPlain := by
  refine .record ?_
  intro member hmember
  rcases List.mem_append.mp hmember with hpath | hname
  · obtain ⟨path, -, rfl⟩ := List.mem_map.mp hpath
    exact .text path
  · rw [List.mem_singleton.mp hname]
    exact .text container.name

/-- An absent module path stays apart from one that is there. -/
theorem Container.ofJson?_toJson (container : Container) :
    Container.ofJson? container.toJson = some container := by
  obtain ⟨modulePath, name⟩ := container
  cases modulePath with
  | none => rfl
  | some path => rfl

theorem ListedIcon.isPlain_toJson (icon : ListedIcon) : icon.toJson.IsPlain := by
  refine .record ?_
  intro member hmember
  simp only [List.mem_cons, List.not_mem_nil, or_false] at hmember
  rcases hmember with rfl | rfl | rfl
  · exact .text icon.identifier
  · exact .text icon.name
  · exact icon.attributes.isPlain_toJson

theorem ListedIcon.ofJson?_toJson (icon : ListedIcon) :
    ListedIcon.ofJson? icon.toJson = some icon := by
  have hfields : icon.toJson.fields? ["identifier", "name", "attributes"]
      = some [some (.text icon.identifier), some (.text icon.name),
        some icon.attributes.toJson] := by
    rfl
  rw [ListedIcon.ofJson?, hfields]
  show (AttributeMap.ofJson? icon.attributes.toJson >>= fun attributes =>
    some (⟨icon.identifier, icon.name, attributes⟩ : ListedIcon)) = some icon
  rw [AttributeMap.ofJson?_toJson]
  rfl

namespace Manifest

theorem isPlain_toJson (manifest : Manifest) : manifest.toJson.IsPlain := by
  refine .record ?_
  intro member hmember
  simp only [List.mem_cons, List.not_mem_nil, or_false] at hmember
  rcases hmember with rfl | rfl | rfl | rfl
  · exact .nat manifest.schemaVersion
  · exact manifest.container.isPlain_toJson
  · exact .text manifest.sourceDigest
  · refine .array ?_
    intro item hitem
    obtain ⟨icon, -, rfl⟩ := List.mem_map.mp hitem
    exact icon.isPlain_toJson

/-- A version that no machine word holds is not understood. -/
theorem ofJson?_toJson (manifest : Manifest) :
    ofJson? manifest.toJson
      = if manifest.schemaVersion < UInt32.size then some manifest else none := by
  have hfields : manifest.toJson.fields? ["schema_version", "container", "source_sha256", "icons"]
      = some [some (.nat manifest.schemaVersion), some manifest.container.toJson,
        some (.text manifest.sourceDigest),
        some (.array (manifest.icons.map ListedIcon.toJson))] := by
    rfl
  rw [ofJson?, hfields]
  show (Value.natBelow? UInt32.size (.nat manifest.schemaVersion) >>= fun version =>
    Container.ofJson? manifest.container.toJson >>= fun container =>
    (manifest.icons.map ListedIcon.toJson).mapM ListedIcon.ofJson? >>= fun icons =>
    some (⟨version, container, manifest.sourceDigest, icons⟩ : Manifest)) = _
  rw [Value.natBelow?_nat, Container.ofJson?_toJson, mapM_map_eq_some ListedIcon.ofJson?_toJson]
  split <;> rfl

theorem parse?_render (manifest : Manifest) :
    Value.parse? manifest.render = some manifest.toJson := by
  refine Value.parse?_pretty manifest.isPlain_toJson 0 ?_
  intro c hc
  rw [List.mem_singleton.mp hc]
  rfl

/-- A printed manifest is read as what it was printed for; one that follows a
    later schema is refused for that. -/
theorem parse_render {manifest : Manifest} (h : manifest.schemaVersion < UInt32.size) :
    parse manifest.render
      = if manifest.schemaVersion ≤ currentSchema then .ok manifest
        else .error (.laterSchema manifest.schemaVersion currentSchema) := by
  rw [parse, parse?_render, Option.bind_eq_bind, Option.bind_some, ofJson?_toJson, if_pos h]

theorem parse_render_of_le {manifest : Manifest} (h : UInt32.size ≤ manifest.schemaVersion) :
    parse manifest.render = .error .badManifest := by
  rw [parse, parse?_render, Option.bind_eq_bind, Option.bind_some, ofJson?_toJson,
    if_neg (Nat.not_lt.mpr h)]

theorem parse_render_make (container : Container) (icons : List Icon) (digest : String) :
    parse (make container icons digest).render = .ok (make container icons digest) :=
  parse_render (show currentSchema < UInt32.size by decide)

/-- A manifest comes back from its document as it was: its icons and their
    attributes in order, and an absent module path apart from an empty one.  A
    manifest that follows a later schema is refused as invalid. -/
theorem document_reads_back (manifest : Manifest) :
    ∃ refusal : Failure, refusal.kind = .validation
      ∧ parse manifest.render
        = if manifest.schemaVersion ≤ currentSchema then .ok manifest else .error refusal := by
  by_cases hword : manifest.schemaVersion < UInt32.size
  · exact ⟨.laterSchema manifest.schemaVersion currentSchema, rfl, parse_render hword⟩
  · have hlarge : UInt32.size ≤ manifest.schemaVersion := Nat.not_lt.mp hword
    have hlater : ¬ manifest.schemaVersion ≤ currentSchema :=
      Nat.not_le.mpr (Nat.lt_of_lt_of_le (by decide) hlarge)
    exact ⟨.badManifest, rfl, by rw [parse_render_of_le hlarge, if_neg hlater]⟩

end Manifest

end IconCompiler
